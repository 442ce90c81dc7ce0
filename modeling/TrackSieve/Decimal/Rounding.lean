import TrackSieve.Binary64.Rounding
import TrackSieve.Decimal.Digit

/-!
# The double nearest to a decimal

A coefficient and a power of ten are rounded once, from their exact value; a tie goes to the even
double unless the caller says otherwise. Decimals above
`10 ^ 400` or below `10 ^ -400` are infinite and zero without that value being computed, which
keeps the work small for exponents of any size.
-/

namespace TrackSieve.Binary64

/-- The double nearest to `coefficient * 10 ^ exponent` with a sign. -/
def roundDecimal (tie : Tie) (negative : Bool) (coefficient : Nat) (exponent : Int) : Binary64 :=
  let places := Digit.count coefficient + exponent
  if coefficient = 0 ∨ places < -400 then zeroOf negative
  else if 400 < places then infinityOf negative
  else
    ofUnits tie negative (coefficient * unitsPerOne * Nat.pow 10 exponent.toNat)
      (Nat.pow 10 (-exponent).toNat)

/-- The double nearest to `coefficient * 10 ^ exponent` with a sign, a tie going to the even one. -/
def ofDecimal : Bool → Nat → Int → Binary64 := roundDecimal .even

@[simp] theorem roundDecimal_zero (t : Tie) (s : Bool) (e : Int) :
    roundDecimal t s 0 e = zeroOf s := by
  simp [roundDecimal]

@[simp] theorem ofDecimal_zero (s : Bool) (e : Int) : ofDecimal s 0 e = zeroOf s :=
  roundDecimal_zero .even s e

end TrackSieve.Binary64
