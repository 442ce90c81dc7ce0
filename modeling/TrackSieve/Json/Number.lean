import TrackSieve.Decimal.Layout

/-!
# JSON numbers

A number stands for the double nearest to it. In the middle between two doubles it goes to the even
one as long as its whole part is short; a number with a very long whole part counts as slightly
farther from zero than it is, which decides only ties. The numbers that are written have short whole
parts, so they are read like any other numeral.
-/

namespace TrackSieve.Json

/-- The most digits before the point of a number of which ties still go to the even double. No tie
between two doubles has more than so many digits that are not zeros at its end. -/
def tieDigits : Nat := 768

/-- Where a number goes that lies in the middle between two doubles. -/
def tie (n : Numeral) : Binary64.Tie := if n.whole.length ≤ tieDigits then .even else .up

/-- The double nearest to a number. -/
def nearest (n : Numeral) : Binary64 := n.round (tie n)

theorem nearest_of_length_le {n : Numeral} (h : n.whole.length ≤ tieDigits) :
    nearest n = n.toBinary64 := by
  simp [nearest, tie, h, Numeral.toBinary64]

/-- Sixteen digits at most are written before the point. -/
theorem length_whole_place_le (negative : Bool) (digits : List Digit) (point : Int) :
    (Layout.json.place negative digits point).whole.length ≤ 16 := by
  by_cases h : -5 < point ∧ point ≤ 16
  · have length_eq : (digits.take point.toNat ++
        List.replicate (point.toNat - digits.length) Digit.zero).length = point.toNat := by
      simp only [List.length_append, List.length_take, List.length_replicate]
      omega
    simp only [Layout.place, Layout.json, h, and_self, decide_true, ↓reduceIte]
    split
    · simp
    · omega
  · simp only [Layout.place, Layout.json, h, decide_false, Bool.false_eq_true, ↓reduceIte,
      List.length_take]
    omega

/-- What is written for a double is read with ties to even. -/
theorem nearest_numeral (x : Binary64) :
    nearest (Layout.json.numeral x) = (Layout.json.numeral x).toBinary64 := by
  apply nearest_of_length_le
  simp only [Layout.numeral, tieDigits]
  split <;> exact Nat.le_trans (length_whole_place_le _ _ _) (by decide)

end TrackSieve.Json
