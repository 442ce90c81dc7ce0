import TrackSieve.Binary64.Basic

/-!
# Rounding to double precision

Every finite magnitude is a whole number of units, the unit being the smallest positive double,
`2 ^ -1074`. A quotient of natural numbers, counted in units, is rounded to the nearest magnitude
code. Products, quotients and decimals are the exact results, rounded once. Of two equally near
codes arithmetic takes the even one; what lies on the grid is never moved.
-/

namespace TrackSieve.Binary64

/-- The number of units in one. -/
def unitsPerOne : Nat := Nat.pow 2 1074

/-- The number of units in the finite magnitude of a code. The lowest 52 bits of a code are the
significand without its leading bit, the bits above them are the exponent. -/
def unitsOfCode (code : Nat) : Nat :=
  if code / 0x10000000000000 = 0 then code
  else (0x10000000000000 + code % 0x10000000000000) * Nat.pow 2 (code / 0x10000000000000 - 1)

/-- The absolute value of a finite double, in units. -/
def units (x : Binary64) : Nat := unitsOfCode x.magnitude

/-- Where a quotient goes that lies in the middle between two natural numbers: to the even one, or
up to the greater one. -/
inductive Tie where
  | even
  | up
deriving DecidableEq

/-- The natural number nearest to a quotient. -/
def roundQuotient (tie : Tie) (num den : Nat) : Nat :=
  let q := num / den
  let r := num % den
  if den < 2 * r ∨ (2 * r = den ∧ (tie = .up ∨ q % 2 = 1)) then q + 1 else q

/-- A quotient without a remainder is not moved, whatever becomes of ties. -/
theorem roundQuotient_mul_right (tie : Tie) (n : Nat) {den : Nat} (h : 0 < den) :
    roundQuotient tie (n * den) den = n := by
  have hd : ¬0 = den := by omega
  simp [roundQuotient, Nat.mul_div_cancel n h, hd]

/-- The magnitude code nearest to `num / den` units, as if codes went on beyond the finite ones.

The grid of codes around a number of `s + 53` binary digits has steps of `2 ^ s` units. -/
def nearestCode (tie : Tie) (num den : Nat) : Nat :=
  let s := (num / den).log2 - 52
  s * 0x10000000000000 + roundQuotient tie num (den * Nat.pow 2 s)

/-- The double nearest to `num / den` units with a sign; a magnitude out of range gives infinity. -/
def ofUnits (tie : Tie) (negative : Bool) (num den : Nat) : Binary64 :=
  ofCode negative (nearestCode tie num den)

/-- The double nearest to a natural number. -/
def ofNat (n : Nat) : Binary64 := ofUnits .even false (n * unitsPerOne) 1

/-- The rounded product; a zero times an infinity is no number. -/
def mul (x y : Binary64) : Binary64 :=
  let sign := x.negative != y.negative
  if x.IsNaN ∨ y.IsNaN then nan
  else if x.IsFinite ∧ y.IsFinite then
    ofUnits .even sign (x.units * y.units) unitsPerOne
  else if x.IsZero ∨ y.IsZero then nan
  else infinityOf sign

/-- The rounded quotient; zero by zero and infinity by infinity are no numbers. -/
def div (x y : Binary64) : Binary64 :=
  let sign := x.negative != y.negative
  if x.IsNaN ∨ y.IsNaN then nan
  else if y.IsZero then if x.IsZero then nan else infinityOf sign
  else if x.IsFinite then
    if y.IsFinite then ofUnits .even sign (x.units * unitsPerOne) y.units else zeroOf sign
  else if y.IsFinite then infinityOf sign else nan

instance : Mul Binary64 := ⟨mul⟩
instance : Div Binary64 := ⟨div⟩

end TrackSieve.Binary64
