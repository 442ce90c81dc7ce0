import TrackSieve.Decimal.Rounding

/-!
# Shortest decimals

Of all decimals that round to a positive double, the shortest is chosen: the fewest digits, and of
equally short ones the closest to the double, a tie going up. With a given number of digits only
two decimals can come closest, the ones just below and just above the double, so each count of
digits is settled by two trials. Seventeen digits are always enough; the exact value of the double
stands behind the search, so that the result reads back whatever the search finds.
-/

namespace TrackSieve

/-- A positive decimal `coefficient * 10 ^ exponent`. -/
structure Decimal where
  coefficient : Nat
  exponent : Int
deriving DecidableEq

namespace Decimal

/-- The double nearest to a decimal. -/
def toBinary64 (d : Decimal) : Binary64 := .ofDecimal false d.coefficient d.exponent

/-- The exact value of a number of units: a unit has `5 ^ 1074` as its decimals. -/
def exact (units : Nat) : Decimal := ⟨units * Nat.pow 5 1074, -1074⟩

/-- The power of ten just above a positive number of units. -/
def places (units : Nat) : Int :=
  Digit.count (units * Nat.pow 10 400 / Binary64.unitsPerOne) - 400

/-- The decimal with the given last place, its carry to the next power of ten put into place. -/
def onGrid (coefficient : Nat) (digits : Nat) (exponent : Int) : Decimal :=
  if coefficient = Nat.pow 10 digits then ⟨1, exponent + digits⟩ else ⟨coefficient, exponent⟩

/-- The decimal of the given number of digits that is closest to a number of units among those
that round to the double. -/
def nearest? (x : Binary64) (digits : Nat) : Option Decimal :=
  let exponent := places x.units - digits
  let num := x.units * Nat.pow 10 (-exponent).toNat
  let den := Binary64.unitsPerOne * Nat.pow 10 exponent.toNat
  let below := onGrid (num / den) digits exponent
  let above := onGrid (num / den + 1) digits exponent
  let choices := if 2 * (num % den) < den then [below, above] else [above, below]
  choices.find? fun d => d.toBinary64 = x

/-- The shortest decimal that rounds to a positive double. -/
def shortest (x : Binary64) : Decimal :=
  ((List.range' 1 17).findSome? (nearest? x)).getD (exact x.units)

/-- What the search finds rounds to the double. -/
theorem toBinary64_of_nearest? {x : Binary64} {digits : Nat} {d : Decimal}
    (h : nearest? x digits = some d) : d.toBinary64 = x := by
  simpa using List.find?_some h

end Decimal

end TrackSieve
