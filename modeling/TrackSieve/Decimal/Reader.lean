import TrackSieve.Decimal.Numeral

/-!
# Reading doubles

The text of a double is an optional sign and then one of the words for infinity and NaN, in any
case, or digits with an optional point on either side and an optional power of ten. Every text of
this form has a value: out of range it is infinite or zero.
-/

namespace TrackSieve.Binary64

/-- Takes an optional sign off a text; the flag is set by a minus. -/
def splitSign : List Char → Bool × List Char
  | '-' :: cs => (true, cs)
  | '+' :: cs => (false, cs)
  | cs => (false, cs)

theorem length_splitSign (cs : List Char) : (splitSign cs).2.length ≤ cs.length := by
  unfold splitSign
  split <;> simp

/-- The integer of a sign and an absolute value. -/
def signed (negative : Bool) (n : Nat) : Int := if negative then -(n : Int) else n

/-- The power of ten at the end of a numeral: nothing, or an `e` of either case, an optional sign
and digits. -/
def readExponent? : List Char → Option Int
  | [] => some 0
  | c :: cs =>
    let digits := Digit.span (splitSign cs).2
    if (c = 'e' ∨ c = 'E') ∧ digits.1 ≠ [] ∧ digits.2 = [] then
      some (signed (splitSign cs).1 (Digit.value digits.1))
    else none

/-- The digits after a point, if there is a point, and the text behind them. -/
def splitFraction : List Char → List Digit × List Char
  | '.' :: cs => Digit.span cs
  | cs => ([], cs)

/-- A numeral without its sign. -/
def readNumeral? (negative : Bool) (cs : List Char) : Option Numeral :=
  let whole := Digit.span cs
  let fraction := splitFraction whole.2
  if whole.1 = [] ∧ fraction.1 = [] then none
  else (readExponent? fraction.2).map fun exponent => ⟨negative, whole.1, fraction.1, exponent⟩

/-- What a text without its sign stands for. -/
def readUnsigned? (negative : Bool) (cs : List Char) : Option Binary64 :=
  let word := cs.map Char.toLower
  if word = "inf".toList ∨ word = "infinity".toList then some (infinityOf negative)
  else if word = "nan".toList then some { nan with negative }
  else (readNumeral? negative cs).map Numeral.toBinary64

/-- The double that a text stands for. -/
def ofChars? (cs : List Char) : Option Binary64 := readUnsigned? (splitSign cs).1 (splitSign cs).2

/-- The double that a string stands for. -/
def ofText? (s : String) : Option Binary64 := ofChars? s.toList

end TrackSieve.Binary64
