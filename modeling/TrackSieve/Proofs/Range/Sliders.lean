import TrackSieve.Proofs.Range.Ordered

/-!
# The two sliders

A selection is drawn with two sliders, and a value is selected exactly if each of them lets it
pass. The lower slider looks only at the floor and the lower bound, the upper one only at the upper
bound and the ceiling. All this needs of the bounds is their order, so they may be infinite. Only to
tell from what is rejected that a slider was moved, the ends of the domain must be finite: then the
infinities lie off them.
-/

namespace TrackSieve.Range

open Binary64

variable {r : Range} {v : Binary64}

/-- The lower slider lets a value pass: the value lies above the lower bound, or below the domain
while the lower bound sits on the floor. -/
def PassesLower (r : Range) (v : Binary64) : Prop :=
  r.lower < v ∨ (v < r.floor ∧ r.LowerAtFloor)

/-- The upper slider lets a value pass: the value lies below the upper bound, or above the domain
while the upper bound sits on the ceiling. -/
def PassesUpper (r : Range) (v : Binary64) : Prop :=
  v < r.upper ∨ (r.ceiling < v ∧ r.UpperAtCeiling)

/-- With bounds in order, infinite or not, acceptance is the conjunction of the two sliders. -/
theorem accepts_iff_passes (hfl : r.floor ≤ r.lower) (hlu : r.lower ≤ r.upper)
    (huc : r.upper ≤ r.ceiling) : r.Accepts v ↔ r.PassesLower v ∧ r.PassesUpper v := by
  obtain ⟨hf, hl, hfl⟩ := hfl
  obtain ⟨-, hu, hlu⟩ := hlu
  obtain ⟨-, hc, huc⟩ := huc
  unfold Accepts PassesLower PassesUpper LowerAtFloor UpperAtCeiling
  by_cases hv : v.IsNaN
  · simp [lt_def, hv]
  · rw [lt_iff_rank hl hv, lt_iff_rank hv hu, lt_iff_rank hv hf, lt_iff_rank hc hv,
      numEq_iff_rank hl hf, numEq_iff_rank hu hc]
    omega

/-- What is no number is not selected. -/
theorem not_accepts_of_isNaN (hv : v.IsNaN) : ¬r.Accepts v := by
  simp [Accepts, lt_def, hv]

theorem PassesLower.not_isNaN (h : r.PassesLower v) : ¬v.IsNaN := by
  rcases h with h | ⟨h, -⟩
  · exact h.2.1
  · exact h.1

/-! ### Ascending bounds -/

/-- The bounds are in order; they need not be finite. -/
structure Ascending (r : Range) : Prop where
  floor_le_lower : r.floor ≤ r.lower
  lower_le_upper : r.lower ≤ r.upper
  upper_le_ceiling : r.upper ≤ r.ceiling

instance (r : Range) : Decidable r.Ascending :=
  decidable_of_iff (r.floor ≤ r.lower ∧ r.lower ≤ r.upper ∧ r.upper ≤ r.ceiling)
    ⟨fun h => ⟨h.1, h.2.1, h.2.2⟩, fun h => ⟨h.1, h.2, h.3⟩⟩

theorem Ordered.ascending (h : r.Ordered) : r.Ascending :=
  ⟨h.floor_le_lower, h.lower_le_upper, h.upper_le_ceiling⟩

/-- The ranks of ascending bounds are in order. -/
theorem Ascending.rank_le (h : r.Ascending) :
    r.floor.rank ≤ r.lower.rank ∧ r.lower.rank ≤ r.upper.rank ∧
      r.upper.rank ≤ r.ceiling.rank :=
  ⟨h.floor_le_lower.2.2, h.lower_le_upper.2.2, h.upper_le_ceiling.2.2⟩

theorem Ascending.accepts_iff (h : r.Ascending) :
    r.Accepts v ↔ r.PassesLower v ∧ r.PassesUpper v :=
  accepts_iff_passes h.floor_le_lower h.lower_le_upper h.upper_le_ceiling

theorem Ascending.passesLower_iff_rank (h : r.Ascending) (hv : ¬v.IsNaN) :
    r.PassesLower v ↔
      r.lower.rank < v.rank ∨ (v.rank < r.floor.rank ∧ r.lower.rank = r.floor.rank) := by
  obtain ⟨hf, hl, -⟩ := h.floor_le_lower
  rw [PassesLower, LowerAtFloor, lt_iff_rank hl hv, lt_iff_rank hv hf, numEq_iff_rank hl hf]

theorem Ascending.passesUpper_iff_rank (h : r.Ascending) (hv : ¬v.IsNaN) :
    r.PassesUpper v ↔
      v.rank < r.upper.rank ∨ (r.ceiling.rank < v.rank ∧ r.upper.rank = r.ceiling.rank) := by
  obtain ⟨hu, hc, -⟩ := h.upper_le_ceiling
  rw [PassesUpper, UpperAtCeiling, lt_iff_rank hv hu, lt_iff_rank hc hv, numEq_iff_rank hu hc]

/-! ### Ordered bounds -/

theorem Ordered.accepts_iff (h : r.Ordered) :
    r.Accepts v ↔ r.PassesLower v ∧ r.PassesUpper v :=
  h.ascending.accepts_iff

theorem Ordered.passesLower_iff_rank (h : r.Ordered) (hv : ¬v.IsNaN) :
    r.PassesLower v ↔
      r.lower.rank < v.rank ∨ (v.rank < r.floor.rank ∧ r.lower.rank = r.floor.rank) :=
  h.ascending.passesLower_iff_rank hv

theorem Ordered.passesUpper_iff_rank (h : r.Ordered) (hv : ¬v.IsNaN) :
    r.PassesUpper v ↔
      v.rank < r.upper.rank ∨ (r.ceiling.rank < v.rank ∧ r.upper.rank = r.ceiling.rank) :=
  h.ascending.passesUpper_iff_rank hv

/-! ### One slider alone -/

/-- The range with only its lower slider kept: the upper bound is back on the ceiling. -/
def onlyLower (r : Range) : Range := { r with upper := r.ceiling }

/-- The range with only its upper slider kept: the lower bound is back on the floor. -/
def onlyUpper (r : Range) : Range := { r with lower := r.floor }

theorem Ascending.onlyLower (h : r.Ascending) : r.onlyLower.Ascending where
  floor_le_lower := h.floor_le_lower
  lower_le_upper := Binary64.le_trans h.lower_le_upper h.upper_le_ceiling
  upper_le_ceiling := Binary64.le_refl h.upper_le_ceiling.2.1

theorem Ascending.onlyUpper (h : r.Ascending) : r.onlyUpper.Ascending where
  floor_le_lower := Binary64.le_refl h.floor_le_lower.1
  lower_le_upper := Binary64.le_trans h.floor_le_lower h.lower_le_upper
  upper_le_ceiling := h.upper_le_ceiling

/-- Both sliders together select what either of them alone selects. -/
theorem Ascending.accepts_iff_only (h : r.Ascending) :
    r.Accepts v ↔ r.onlyLower.Accepts v ∧ r.onlyUpper.Accepts v := by
  by_cases hv : v.IsNaN
  · simp [not_accepts_of_isNaN hv]
  have hrank := h.rank_le
  rw [h.accepts_iff, h.onlyLower.accepts_iff, h.onlyUpper.accepts_iff,
    h.passesLower_iff_rank hv, h.passesUpper_iff_rank hv, h.onlyLower.passesLower_iff_rank hv,
    h.onlyLower.passesUpper_iff_rank hv, h.onlyUpper.passesLower_iff_rank hv,
    h.onlyUpper.passesUpper_iff_rank hv]
  simp only [Range.onlyLower, Range.onlyUpper, and_true]
  omega

/-- What equals a bound is not selected. -/
theorem Ascending.not_accepts_of_numEq {x : Binary64} (h : r.Ascending) (hx : x ∈ r.bounds)
    (hvx : v.NumEq x) : ¬r.Accepts v := by
  obtain ⟨hv, -, hvx⟩ := hvx
  have hrank := h.rank_le
  rw [h.accepts_iff, h.passesLower_iff_rank hv, h.passesUpper_iff_rank hv]
  simp only [bounds, List.mem_cons, List.not_mem_nil, or_false] at hx
  rcases hx with rfl | rfl | rfl | rfl <;> omega

/-! ### Sliders at the ends of the domain -/

/-- A number other than the two ends of the domain. -/
def OffEnds (r : Range) (v : Binary64) : Prop :=
  ¬v.IsNaN ∧ ¬v.NumEq r.floor ∧ ¬v.NumEq r.ceiling

/-- With both sliders at their ends, all numbers off the ends of the domain are selected. -/
theorem Ascending.accepts_iff_offEnds (h : r.Ascending) (hn : ¬r.Narrowed) :
    r.Accepts v ↔ r.OffEnds v := by
  by_cases hv : v.IsNaN
  · exact iff_of_false (not_accepts_of_isNaN hv) fun hoff => hoff.1 hv
  rw [narrowed_iff_rank h.floor_le_lower h.upper_le_ceiling] at hn
  have hrank := h.rank_le
  rw [h.accepts_iff, h.passesLower_iff_rank hv, h.passesUpper_iff_rank hv, OffEnds,
    numEq_iff_rank hv h.floor_le_lower.1, numEq_iff_rank hv h.upper_le_ceiling.2.1]
  simp only [hv, not_false_eq_true, true_and]
  omega

/-- Finite domains have no infinity for an end. -/
theorem Ordered.offEnds_infinityOf (h : r.Ordered) (s : Bool) : r.OffEnds (infinityOf s) := by
  refine ⟨isNaN_infinityOf s, fun hf => ?_, fun hc => ?_⟩
  · exact not_isFinite_infinityOf s (hf.isFinite_iff.2 h.floor_isFinite)
  · exact not_isFinite_infinityOf s (hc.isFinite_iff.2 h.ceiling_isFinite)

/-- **A selection is narrowed exactly if it loses a number off the ends of the domain.** A lower
bound above the floor loses minus infinity, and an upper bound below the ceiling infinity. This is
where the domain must be finite. -/
theorem Ordered.narrowed_iff_exists_offEnds (h : r.Ordered) :
    r.Narrowed ↔ ∃ v, r.OffEnds v ∧ ¬r.Accepts v := by
  constructor
  · intro hn
    rw [narrowed_iff_rank h.floor_le_lower h.upper_le_ceiling] at hn
    rcases hn with hlower | hupper
    · refine ⟨infinityOf true, h.offEnds_infinityOf true, ?_⟩
      have hl := isFinite_iff_rank.1 h.lower_isFinite
      have hv : (infinityOf true).rank = -(infinityCode : Int) := rank_infinityOf true
      rw [h.accepts_iff, h.passesLower_iff_rank (isNaN_infinityOf true)]
      omega
    · refine ⟨infinityOf false, h.offEnds_infinityOf false, ?_⟩
      have hu := isFinite_iff_rank.1 h.upper_isFinite
      have hv : (infinityOf false).rank = infinityCode := rank_infinityOf false
      rw [h.accepts_iff, h.passesUpper_iff_rank (isNaN_infinityOf false)]
      omega
  · rintro ⟨v, hoff, hrejected⟩
    by_contra hn
    exact hrejected ((h.ascending.accepts_iff_offEnds hn).2 hoff)

/-! ### Resetting -/

theorem edit?_reset_edit_reset : (r.edit .reset).edit? .reset = none := by
  rw [edit_reset, edit?, if_pos ⟨rfl, rfl⟩]

/-- A reset puts both sliders at their ends, wherever they were. -/
theorem not_narrowed_edit_reset : ¬(r.edit .reset).Narrowed := by
  rw [edit_reset]
  exact not_narrowed_of_eq rfl rfl

/-- A reset brings any bounds in order over a domain whose ends are in order. -/
theorem ascending_edit_reset (h : r.floor ≤ r.ceiling) : (r.edit .reset).Ascending := by
  rw [edit_reset]
  exact ⟨Binary64.le_refl h.1, h, Binary64.le_refl h.2.1⟩

end TrackSieve.Range
