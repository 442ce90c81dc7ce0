import TrackSieve.Binary64.Rounding
import Mathlib.Tactic

/-!
# Rounding what is on the grid

A code stands for a significand shifted by its exponent, and the nearest code is found from the
same two numbers. So a number of units that some code stands for is rounded to that code, and
rounding depends only on the quotient, not on how it is written as a fraction.
-/

namespace TrackSieve.Binary64

variable {tie : Tie} {num den num' den' : Nat}

/-! ### Fractions -/

theorem roundQuotient_mul_mul (tie : Tie) (num den : Nat) {k : Nat} (hk : 0 < k) :
    roundQuotient tie (num * k) (den * k) = roundQuotient tie num den := by
  have hlt : den * k < 2 * (num % den * k) ↔ den < 2 * (num % den) := by
    rw [← Nat.mul_assoc, Nat.mul_lt_mul_right hk]
  have heq : 2 * (num % den * k) = den * k ↔ 2 * (num % den) = den := by
    rw [← Nat.mul_assoc, Nat.mul_left_inj hk.ne']
  simp only [roundQuotient, Nat.mul_div_mul_right _ _ hk, Nat.mul_mod_mul_right, hlt, heq]

theorem nearestCode_mul_mul (tie : Tie) (num den : Nat) {k : Nat} (hk : 0 < k) :
    nearestCode tie (num * k) (den * k) = nearestCode tie num den := by
  simp only [nearestCode, Nat.mul_div_mul_right _ _ hk]
  rw [Nat.mul_right_comm, roundQuotient_mul_mul tie _ _ hk]

/-- The nearest code depends on the quotient only. -/
theorem nearestCode_congr (hd : 0 < den) (hd' : 0 < den') (h : num * den' = num' * den) :
    nearestCode tie num den = nearestCode tie num' den' := by
  rw [← nearestCode_mul_mul tie num den hd', h, Nat.mul_comm den den',
    nearestCode_mul_mul tie num' den' hd]

theorem ofUnits_congr {negative : Bool} (hd : 0 < den) (hd' : 0 < den')
    (h : num * den' = num' * den) :
    ofUnits tie negative num den = ofUnits tie negative num' den' := by
  rw [ofUnits, ofUnits, nearestCode_congr hd hd' h]

/-! ### Codes -/

theorem unitsOfCode_eq (code : Nat) :
    unitsOfCode code =
      if code / 2 ^ 52 = 0 then code
      else (2 ^ 52 + code % 2 ^ 52) * 2 ^ (code / 2 ^ 52 - 1) := rfl

theorem nearestCode_eq (tie : Tie) (num den : Nat) :
    nearestCode tie num den =
      ((num / den).log2 - 52) * 2 ^ 52 +
        roundQuotient tie num (den * 2 ^ ((num / den).log2 - 52)) := rfl

/-- A code is its shift and its significand, and it stands for the shifted significand. The shift
can be read off the number of binary digits. -/
theorem exists_significand (code : Nat) :
    ∃ m s, code = s * 2 ^ 52 + m ∧ unitsOfCode code = m * 2 ^ s ∧ (m * 2 ^ s).log2 - 52 = s := by
  have hmod : code % 2 ^ 52 < 2 ^ 52 := Nat.mod_lt _ (by norm_num)
  have hdiv := Nat.div_add_mod code (2 ^ 52)
  rw [unitsOfCode_eq]
  by_cases he : code / 2 ^ 52 = 0
  · -- without an exponent the code is its own significand
    refine ⟨code, 0, by omega, by rw [if_pos he, pow_zero, mul_one], ?_⟩
    rw [pow_zero, mul_one]
    have hlt : code < 2 ^ 52 := by omega
    rcases Nat.eq_zero_or_pos code with hz | hpos
    · rw [hz]; rfl
    · have := (Nat.log2_lt hpos.ne').2 hlt
      omega
  · -- with one the significand has its leading bit at 52, and the shift moves it up from there
    refine ⟨2 ^ 52 + code % 2 ^ 52, code / 2 ^ 52 - 1, by omega, if_neg he, ?_⟩
    generalize code / 2 ^ 52 - 1 = s
    have hlog : ((2 ^ 52 + code % 2 ^ 52) * 2 ^ s).log2 = 52 + s := by
      rw [Nat.log2_eq_iff (by positivity), pow_add, show 52 + s + 1 = 53 + s by omega,
        pow_add 2 53 s]
      exact ⟨Nat.mul_le_mul_right _ (by omega),
        Nat.mul_lt_mul_of_pos_right (by omega) (by positivity)⟩
    omega

/-- What a code stands for is rounded to the code. -/
theorem nearestCode_unitsOfCode (tie : Tie) (code : Nat) (hd : 0 < den) :
    nearestCode tie (unitsOfCode code * den) den = code := by
  obtain ⟨m, s, hcode, hunits, hs⟩ := exists_significand code
  have hmul : m * 2 ^ s * den = m * (den * 2 ^ s) := by ring
  rw [nearestCode_eq, Nat.mul_div_cancel _ hd, hunits, hs, hmul,
    roundQuotient_mul_right tie m (by positivity), ← hcode]

/-- The units of a finite double have 53 binary digits, shifted by at most 2045. -/
theorem units_lt {x : Binary64} (h : x.IsFinite) : x.units < 2 ^ (53 + 2045) := by
  have hm : x.magnitude < 0x7ff * 2 ^ 52 := h
  have he : x.magnitude / 2 ^ 52 - 1 ≤ 2045 := by omega
  generalize 2045 = e at he ⊢
  rw [units, unitsOfCode_eq]
  split
  · calc x.magnitude < 2 ^ 53 := by omega
      _ ≤ 2 ^ (53 + e) := Nat.pow_le_pow_right (by norm_num) (Nat.le_add_right _ _)
  · have hmod : x.magnitude % 2 ^ 52 < 2 ^ 52 := Nat.mod_lt _ (by norm_num)
    calc (2 ^ 52 + x.magnitude % 2 ^ 52) * 2 ^ (x.magnitude / 2 ^ 52 - 1)
        < 2 ^ 53 * 2 ^ (x.magnitude / 2 ^ 52 - 1) :=
          Nat.mul_lt_mul_of_pos_right (by omega) (by positivity)
      _ ≤ 2 ^ 53 * 2 ^ e := Nat.mul_le_mul_left _ (Nat.pow_le_pow_right (by norm_num) he)
      _ = 2 ^ (53 + e) := (pow_add 2 53 e).symm

/-- Only zeros have no units. -/
theorem units_pos {x : Binary64} (h : ¬x.IsZero) : 0 < x.units := by
  have hm : 0 < x.magnitude := Nat.pos_of_ne_zero h
  rw [units, unitsOfCode_eq]
  split
  · exact hm
  · positivity

/-- The exact value of a finite double is rounded to the double. -/
theorem ofUnits_units {x : Binary64} (h : x.IsFinite) (hd : 0 < den) :
    ofUnits tie x.negative (x.units * den) den = x := by
  rw [ofUnits, units, nearestCode_unitsOfCode tie x.magnitude hd]
  refine ext rfl ?_
  exact Nat.min_eq_left (Nat.le_of_lt h)

end TrackSieve.Binary64
