import TrackSieve.Decimal.Numeral
import TrackSieve.Decimal.Shortest

/-!
# Layouts of doubles

A layout decides how the shortest digits of a double are laid out: where positional writing ends
and whether a whole number keeps a fraction. There is one layout for messages, one for diagnostics
and one for JSON.
-/

namespace TrackSieve

/-- How the digits of a double are laid out: whether a number just below `10 ^ p` is written without
a power of ten, and whether a whole number written so ends in a point and a zero. -/
structure Layout where
  positional : Int → Bool
  markWhole : Bool

namespace Layout

/-- The layout of messages: never a power of ten, and whole numbers without a point. -/
def plain : Layout := ⟨fun _ => true, false⟩

/-- The layout of diagnostics: positional from `0.0001` up to but not including `10 ^ 16`. -/
def diagnostic : Layout := ⟨fun p => -4 < p ∧ p ≤ 16, true⟩

/-- The layout of JSON: positional from `0.00001` up to but not including `10 ^ 16`. -/
def json : Layout := ⟨fun p => -5 < p ∧ p ≤ 16, true⟩

/-- Lays out digits whose point stands after the first `point` of them. -/
def place (l : Layout) (negative : Bool) (digits : List Digit) (point : Int) : Numeral :=
  if l.positional point then
    let whole := digits.take point.toNat ++ List.replicate (point.toNat - digits.length) .zero
    let fraction := List.replicate (-point).toNat .zero ++ digits.drop point.toNat
    { negative
      whole := if whole.isEmpty then [.zero] else whole
      fraction := if fraction.isEmpty && l.markWhole then [.zero] else fraction
      exponent := 0 }
  else
    { negative, whole := digits.take 1, fraction := digits.drop 1, exponent := point - 1 }

/-- The numeral of a finite double. -/
def numeral (l : Layout) (x : Binary64) : Numeral :=
  if x.IsZero then l.place x.negative [.zero] 1
  else
    let d := Decimal.shortest { x with negative := false }
    let digits := Digit.ofNat d.coefficient
    l.place x.negative digits (d.exponent + digits.length)

/-- The text of a double. -/
def text (l : Layout) (x : Binary64) : String :=
  if x.IsNaN then "NaN"
  else if x.IsFinite then (l.numeral x).text
  else if x.negative then "-inf" else "inf"

end Layout

end TrackSieve
