/-!
# Digits in base sixteen

The digits of numbers in base sixteen are written in lower case and read in either case.
-/

namespace TrackSieve.Text

/-- The digits of a number in base sixteen, without leading zeros. -/
def hexChars (n : Nat) : List Char := Nat.toDigits 16 n

/-- The value of a digit in base sixteen. -/
def hexDigit? (c : Char) : Option Nat :=
  if '0' ≤ c ∧ c ≤ '9' then some (c.toNat - 48)
  else if 'a' ≤ c ∧ c ≤ 'f' then some (c.toNat - 87)
  else if 'A' ≤ c ∧ c ≤ 'F' then some (c.toNat - 55)
  else none

/-- A written digit is read back. -/
theorem hexDigit?_digitChar : ∀ n < 16, hexDigit? (Nat.digitChar n) = some n := by decide

end TrackSieve.Text
