import TrackSieve.Decimal.Rounding
import TrackSieve.Proofs.Binary64.Exact

/-!
# Decimals of the same value

Rounding a decimal depends on its value only: zeros at the end of the coefficient may be moved into
the power of ten. The sign goes through unchanged.
-/

namespace TrackSieve

namespace Digit

/-- The number of digits is one more than the logarithm. -/
theorem count_eq_log (n : Nat) : count n = Nat.log 10 n + 1 := by
  induction n using Nat.strongRecOn with
  | _ n ih =>
    unfold count
    split
    · rw [Nat.log_of_lt ‹_›]
    · rw [ih (n / 10) (by omega), ← Nat.log_of_one_lt_of_le (by norm_num) (by omega)]

theorem count_mul_pow {n : Nat} (h : 0 < n) (k : Nat) : count (n * 10 ^ k) = count n + k := by
  induction k with
  | zero => rw [pow_zero, mul_one, Nat.add_zero]
  | succ k ih =>
    rw [count_eq_log] at ih ⊢
    rw [pow_succ, ← mul_assoc, Nat.log_mul_base (by norm_num) (by positivity)]
    omega

/-- A number with `10 ^ k` below it and `10 ^ m` above it has between `k + 1` and `m` digits. -/
theorem count_bounds {n k m : Nat} (hk : 10 ^ k ≤ n) (hm : n < 10 ^ m) :
    k < count n ∧ count n ≤ m := by
  have hn : n ≠ 0 := (lt_of_lt_of_le (by positivity) hk).ne'
  rw [count_eq_log]
  exact ⟨Nat.lt_succ_of_le (Nat.le_log_of_pow_le (by norm_num) hk), Nat.log_lt_of_lt_pow hn hm⟩

end Digit

namespace Binary64

/-- In the range of the reader a decimal is rounded from its exact value. -/
theorem roundDecimal_of_places {tie : Tie} {negative : Bool} {coefficient : Nat} {exponent : Int}
    (hc : 0 < coefficient) (hmin : -400 ≤ (Digit.count coefficient : Int) + exponent)
    (hmax : (Digit.count coefficient : Int) + exponent ≤ 400) :
    roundDecimal tie negative coefficient exponent =
      ofUnits tie negative (coefficient * unitsPerOne * 10 ^ exponent.toNat)
        (10 ^ (-exponent).toNat) := by
  have hin : ¬(coefficient = 0 ∨ (Digit.count coefficient : Int) + exponent < -400) := by omega
  have hout : ¬400 < (Digit.count coefficient : Int) + exponent := by omega
  simp only [roundDecimal, hin, hout, if_false, Nat.pow_eq]

/-- Zeros at the end of a coefficient count as powers of ten. -/
theorem roundDecimal_mul_pow (tie : Tie) (negative : Bool) (coefficient k : Nat)
    (exponent : Int) :
    roundDecimal tie negative (coefficient * 10 ^ k) exponent =
      roundDecimal tie negative coefficient (exponent + k) := by
  rcases Nat.eq_zero_or_pos coefficient with hz | hpos
  · rw [hz, Nat.zero_mul, roundDecimal_zero, roundDecimal_zero]
  have hne : coefficient ≠ 0 := hpos.ne'
  have hne' : coefficient * 10 ^ k ≠ 0 := by positivity
  have hplaces : ((Digit.count (coefficient * 10 ^ k) : Nat) : Int) + exponent =
      (Digit.count coefficient : Int) + (exponent + k) := by
    rw [Digit.count_mul_pow hpos]
    push_cast
    ring
  -- both sides count the same power of ten, split between numerator and denominator
  have hexp : k + exponent.toNat + (-(exponent + k)).toNat =
      (exponent + k).toNat + (-exponent).toNat := by omega
  have hpow : (10 : Nat) ^ k * 10 ^ exponent.toNat * 10 ^ (-(exponent + k)).toNat =
      10 ^ (exponent + k).toNat * 10 ^ (-exponent).toNat := by
    rw [← pow_add, ← pow_add, ← pow_add, hexp]
  simp only [roundDecimal, hplaces, hne, hne', false_or, Nat.pow_eq]
  generalize unitsPerOne = unit
  have hunits : ofUnits tie negative (coefficient * 10 ^ k * unit * 10 ^ exponent.toNat)
      (10 ^ (-exponent).toNat) = ofUnits tie negative
        (coefficient * unit * 10 ^ (exponent + k).toNat) (10 ^ (-(exponent + k)).toNat) := by
    refine ofUnits_congr (by positivity) (by positivity) ?_
    calc coefficient * 10 ^ k * unit * 10 ^ exponent.toNat * 10 ^ (-(exponent + k)).toNat
        = coefficient * unit *
            (10 ^ k * 10 ^ exponent.toNat * 10 ^ (-(exponent + k)).toNat) := by ring
      _ = coefficient * unit * 10 ^ (exponent + k).toNat * 10 ^ (-exponent).toNat := by
        rw [hpow]
        ring
  rw [hunits]

/-- The sign of a decimal goes through to its double. -/
theorem roundDecimal_negative (tie : Tie) (negative : Bool) (coefficient : Nat)
    (exponent : Int) :
    roundDecimal tie negative coefficient exponent =
      { roundDecimal tie false coefficient exponent with negative := negative } := by
  have ofCode_negative : ∀ code, ofCode negative code =
      { ofCode false code with negative := negative } := fun _ => rfl
  simp only [roundDecimal]
  split_ifs
  · exact ofCode_negative _
  · exact ofCode_negative _
  · exact ofCode_negative _

end Binary64

end TrackSieve
