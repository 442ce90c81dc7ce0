import TrackSieve.Proofs.Binary64.Exact
import TrackSieve.Proofs.Binary64.Order

/-!
# Rounding keeps the order

Of two quotients the greater is not rounded to the smaller code, whatever becomes of ties: on one
grid their whole parts and remainders are in order, and between two grids lies a power of two, which
both contain. So scaling by a positive finite factor, which multiplies or divides the exact value
and rounds once, keeps the order of all numbers, from the infinities over overflow and underflow
down to the two zeros.
-/

namespace TrackSieve.Binary64

variable {tie : Tie} {m n den : Nat} {x y c : Binary64}

/-! ### Quotients -/

theorem roundQuotient_mono (tie : Tie) (den : Nat) : Monotone (roundQuotient tie · den) := by
  intro m n h
  have hm := Nat.div_add_mod m den
  have hn := Nat.div_add_mod n den
  have hround : roundQuotient tie m den ≤ m / den + 1 := by
    simp only [roundQuotient]
    split <;> omega
  have hround' : n / den ≤ roundQuotient tie n den := by
    simp only [roundQuotient]
    split <;> omega
  rcases (Nat.div_le_div_right h : m / den ≤ n / den).lt_or_eq with hlt | heq
  · show roundQuotient tie m den ≤ roundQuotient tie n den
    omega
  · -- with equal whole parts the remainders decide, and with equal remainders the same tie
    rw [heq] at hm
    have hrem : m % den ≤ n % den := by omega
    have hup : den < 2 * (m % den) ∨ 2 * (m % den) = den ∧ (tie = .up ∨ n / den % 2 = 1) →
        den < 2 * (n % den) ∨ 2 * (n % den) = den ∧ (tie = .up ∨ n / den % 2 = 1) := by
      rintro (hgt | ⟨htie, hgoes⟩)
      · left
        omega
      · rcases hrem.lt_or_eq with hlt | heq
        · left
          omega
        · right
          rw [← heq]
          exact ⟨htie, hgoes⟩
    simp only [roundQuotient, heq]
    split_ifs with hm hn
    · exact le_rfl
    · exact absurd (hup hm) hn
    · exact Nat.le_succ _
    · exact le_rfl

/-- What lies below a natural number is not rounded above it. -/
theorem roundQuotient_le {k : Nat} (hd : 0 < den) (h : n ≤ k * den) :
    roundQuotient tie n den ≤ k := by
  rw [← roundQuotient_mul_right tie k hd]
  exact roundQuotient_mono tie den h

theorem le_roundQuotient {k : Nat} (hd : 0 < den) (h : k * den ≤ n) :
    k ≤ roundQuotient tie n den := by
  rw [← roundQuotient_mul_right tie k hd]
  exact roundQuotient_mono tie den h

/-! ### Codes -/

/-- The number of binary digits of the whole part sets the grid: below a shift `s` the code of the
next power of two is not passed. -/
theorem nearestCode_le {s : Nat} (hd : 0 < den) (hs : (n / den).log2 - 52 = s) :
    nearestCode tie n den ≤ (s + 2) * 2 ^ 52 := by
  have hlt : n / den < 2 ^ (53 + s) :=
    Nat.lt_log2_self.trans_le (Nat.pow_le_pow_right (by norm_num) (by omega))
  have hn : n ≤ 2 ^ 53 * (den * 2 ^ s) := by
    rw [Nat.div_lt_iff_lt_mul hd, pow_add] at hlt
    linarith
  have hround : roundQuotient tie n (den * 2 ^ s) ≤ 2 ^ 53 := roundQuotient_le (by positivity) hn
  rw [nearestCode_eq, hs]
  omega

/-- Above the first grid, which starts at zero, a code lies beyond the power of two that starts its
grid. -/
theorem le_nearestCode {s : Nat} (hd : 0 < den) (hs : (n / den).log2 - 52 = s) (hpos : 0 < s) :
    (s + 1) * 2 ^ 52 ≤ nearestCode tie n den := by
  have hne : n / den ≠ 0 := by
    intro hz
    rw [hz] at hs
    have : Nat.log2 0 = 0 := rfl
    omega
  have hle : 2 ^ (52 + s) ≤ n / den :=
    (Nat.pow_le_pow_right (by norm_num) (by omega)).trans (Nat.log2_self_le hne)
  have hn : 2 ^ 52 * (den * 2 ^ s) ≤ n := by
    rw [Nat.le_div_iff_mul_le hd, pow_add] at hle
    linarith
  have hround : 2 ^ 52 ≤ roundQuotient tie n (den * 2 ^ s) := le_roundQuotient (by positivity) hn
  rw [nearestCode_eq, hs]
  omega

/-- **Rounding keeps the order** of quotients with one denominator. -/
theorem nearestCode_mono (tie : Tie) (hd : 0 < den) : Monotone (nearestCode tie · den) := by
  intro m n h
  have hlog : (m / den).log2 ≤ (n / den).log2 := by
    rw [Nat.log2_eq_log_two, Nat.log2_eq_log_two]
    exact Nat.log_mono_right (Nat.div_le_div_right h)
  rcases (Nat.sub_le_sub_right hlog 52).lt_or_eq with hlt | heq
  · have hle : nearestCode tie m den ≤ _ := nearestCode_le hd rfl
    have hge : _ ≤ nearestCode tie n den := le_nearestCode hd rfl (by omega)
    simp only
    generalize (m / den).log2 - 52 = s at *
    generalize (n / den).log2 - 52 = t at *
    omega
  · simp only [nearestCode_eq, heq]
    exact Nat.add_le_add_left (roundQuotient_mono tie _ h) _

theorem unitsOfCode_mono : Monotone unitsOfCode := by
  intro code code' h
  by_contra hlt
  -- codes are found again from their units, so units out of order would put the codes out of order
  have hround := nearestCode_mono .even Nat.one_pos
    (Nat.mul_le_mul_right 1 (Nat.le_of_not_le hlt))
  simp only [nearestCode_unitsOfCode .even _ one_pos] at hround
  exact hlt (le_of_eq (congrArg unitsOfCode (le_antisymm h hround)))

/-! ### Scaling -/

theorem ofCode_min (s : Bool) (code : Nat) : ofCode s (min code infinityCode) = ofCode s code := by
  refine ext rfl ?_
  show min (min code infinityCode) infinityCode = min code infinityCode
  rw [Nat.min_assoc, Nat.min_self]

/-- The code of a magnitude that is scaled by a quotient; infinity stays infinite. -/
def scaledCode (num den code : Nat) : Nat :=
  if code < infinityCode then min (nearestCode .even (unitsOfCode code * num) den) infinityCode
  else infinityCode

theorem scaledCode_mono (num : Nat) (hd : 0 < den) : Monotone (scaledCode num den) := by
  intro code code' h
  unfold scaledCode
  by_cases hfin : code' < infinityCode
  · rw [if_pos hfin, if_pos (h.trans_lt hfin)]
    refine min_le_min_right _ (nearestCode_mono .even hd ?_)
    exact Nat.mul_le_mul_right num (unitsOfCode_mono h)
  · rw [if_neg hfin]
    split
    · exact min_le_right _ _
    · exact le_rfl

theorem scaledCode_zero (num : Nat) (hd : 0 < den) : scaledCode num den 0 = 0 := by
  have hzero : unitsOfCode 0 * num = unitsOfCode 0 * den := by
    rw [unitsOfCode_eq]
    simp
  rw [scaledCode, if_pos (by decide), hzero, nearestCode_unitsOfCode .even 0 hd, Nat.zero_min]

theorem ofCode_scaledCode_of_lt {num : Nat} {s : Bool} {code : Nat} (h : code < infinityCode) :
    ofCode s (scaledCode num den code) = ofUnits .even s (unitsOfCode code * num) den := by
  rw [scaledCode, if_pos h, ofCode_min, ofUnits]

theorem ofCode_scaledCode_of_ge {num : Nat} {s : Bool} {code : Nat} (h : ¬code < infinityCode) :
    ofCode s (scaledCode num den code) = infinityOf s := by
  rw [scaledCode, if_neg h]
  rfl

/-- Codes that keep the order and zero keep the order of doubles with their signs. -/
theorem ofCode_le_ofCode {g : Nat → Nat} (hg : Monotone g) (hzero : g 0 = 0) (h : x ≤ y) :
    ofCode x.negative (g x.magnitude) ≤ ofCode y.negative (g y.magnitude) := by
  obtain ⟨-, -, hrank⟩ := h
  rw [le_iff_rank (isNaN_ofCode _ _) (isNaN_ofCode _ _)]
  unfold rank at hrank ⊢
  simp only [ofCode]
  cases hx : x.negative <;> cases hy : y.negative <;>
    simp only [hx, hy, Bool.false_eq_true, if_true, if_false] at hrank ⊢
  · have := hg (show x.magnitude ≤ y.magnitude by omega)
    omega
  · -- a number that is not negative is below one that is only if both are zeros
    have hx : x.magnitude = 0 := by omega
    have hy : y.magnitude = 0 := by omega
    rw [hx, hy, hzero]
    simp
  · omega
  · have := hg (show y.magnitude ≤ x.magnitude by omega)
    omega

/-- A finite number above zero. -/
structure IsFactor (c : Binary64) : Prop where
  isFinite : c.IsFinite
  pos : zeroOf false < c

instance (c : Binary64) : Decidable c.IsFactor :=
  decidable_of_iff (c.IsFinite ∧ zeroOf false < c) ⟨fun h => ⟨h.1, h.2⟩, fun h => ⟨h.1, h.2⟩⟩

theorem IsFactor.rank_pos (h : c.IsFactor) : 0 < c.rank := by
  simpa using h.pos.2.2

theorem IsFactor.negative_eq (h : c.IsFactor) : c.negative = false := by
  have hpos := h.rank_pos
  unfold rank at hpos
  split at hpos
  · omega
  · simpa using ‹¬c.negative = true›

theorem IsFactor.not_isZero (h : c.IsFactor) : ¬c.IsZero := by
  rw [← rank_eq_zero_iff]
  exact h.rank_pos.ne'

theorem IsZero.isFinite (h : x.IsZero) : x.IsFinite := by
  rw [IsFinite, show x.magnitude = 0 from h]
  decide

/-- A product with a factor is the magnitude scaled, under the same sign. -/
theorem IsFactor.mul_eq (h : c.IsFactor) (hx : ¬x.IsNaN) :
    x * c = ofCode x.negative (scaledCode c.units unitsPerOne x.magnitude) := by
  show mul x c = _
  have hc := h.isFinite.not_isNaN
  by_cases hfin : x.IsFinite
  · simp only [mul, hx, hc, hfin, h.isFinite, h.negative_eq, or_self, and_self, if_true, if_false,
      Bool.bne_false, ofCode_scaledCode_of_lt hfin, units]
  · have hz : ¬x.IsZero := fun hz => hfin hz.isFinite
    simp only [mul, hx, hc, hfin, hz, h.not_isZero, h.negative_eq, or_self, false_and, if_false,
      Bool.bne_false, ofCode_scaledCode_of_ge hfin]

/-- A quotient by a factor is the magnitude scaled the other way round, under the same sign. -/
theorem IsFactor.div_eq (h : c.IsFactor) (hx : ¬x.IsNaN) :
    x / c = ofCode x.negative (scaledCode unitsPerOne c.units x.magnitude) := by
  show div x c = _
  have hc := h.isFinite.not_isNaN
  by_cases hfin : x.IsFinite
  · simp only [div, hx, hc, hfin, h.isFinite, h.not_isZero, h.negative_eq, or_self, if_true,
      if_false, Bool.bne_false, ofCode_scaledCode_of_lt hfin, units]
  · simp only [div, hx, hc, hfin, h.isFinite, h.not_isZero, h.negative_eq, or_self, if_true,
      if_false, Bool.bne_false, ofCode_scaledCode_of_ge hfin]

/-- **Multiplying by a factor keeps the order.** -/
theorem IsFactor.mul_le_mul (h : c.IsFactor) (hxy : x ≤ y) : x * c ≤ y * c := by
  have hunit : 0 < unitsPerOne := by decide +kernel
  rw [h.mul_eq hxy.1, h.mul_eq hxy.2.1]
  exact ofCode_le_ofCode (scaledCode_mono _ hunit) (scaledCode_zero _ hunit) hxy

/-- **Dividing by a factor keeps the order.** -/
theorem IsFactor.div_le_div (h : c.IsFactor) (hxy : x ≤ y) : x / c ≤ y / c := by
  have hunits : 0 < c.units := units_pos h.not_isZero
  rw [h.div_eq hxy.1, h.div_eq hxy.2.1]
  exact ofCode_le_ofCode (scaledCode_mono _ hunits) (scaledCode_zero _ hunits) hxy

end TrackSieve.Binary64
