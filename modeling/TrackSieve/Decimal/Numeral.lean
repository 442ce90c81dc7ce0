import TrackSieve.Decimal.Rounding

/-!
# Numerals

A numeral is a number as it is spelled in decimal: a sign, digits before and after the point, and
a power of ten. It has a text and a value; different numerals may have the same value.
-/

namespace TrackSieve

/-- A decimal spelling of a number: a sign, the digits before and after the point, and a power of
ten. No point is written without digits after it, and no power that is zero. -/
structure Numeral where
  negative : Bool
  whole : List Digit
  fraction : List Digit
  exponent : Int
deriving DecidableEq

namespace Numeral

/-- The characters of an integer in decimal. -/
def intChars (n : Int) : List Char :=
  (if n < 0 then ['-'] else []) ++ (Digit.ofNat n.natAbs).map Digit.char

/-- The characters of a numeral. -/
def chars (n : Numeral) : List Char :=
  (if n.negative then ['-'] else []) ++ n.whole.map Digit.char ++
    (if n.fraction.isEmpty then [] else '.' :: n.fraction.map Digit.char) ++
    (if n.exponent = 0 then [] else 'e' :: intChars n.exponent)

/-- The text of a numeral. -/
def text (n : Numeral) : String := String.ofList n.chars

/-- The double nearest to the number that a numeral spells. -/
def round (tie : Binary64.Tie) (n : Numeral) : Binary64 :=
  .roundDecimal tie n.negative (Digit.value (n.whole ++ n.fraction))
    (n.exponent - n.fraction.length)

/-- The double nearest to the number that a numeral spells, a tie going to the even one. -/
def toBinary64 (n : Numeral) : Binary64 := n.round .even

end Numeral

end TrackSieve
