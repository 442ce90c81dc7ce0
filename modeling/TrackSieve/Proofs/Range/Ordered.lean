import TrackSieve.Filter.Run
import TrackSieve.Proofs.Binary64.Order
import Mathlib.Tactic

/-!
# Ranges in order

A range passes the check of its bounds exactly if the bounds are finite and
`floor ≤ lower ≤ upper ≤ ceiling`. The middle bounds are finite as soon as the outer ones are, so
an ordered range is settled by two finite numbers and three comparisons of ranks.
-/

namespace TrackSieve.Range

open Binary64

variable {r s : Range}

/-- The bounds are finite and in order. -/
structure Ordered (r : Range) : Prop where
  floor_isFinite : r.floor.IsFinite
  ceiling_isFinite : r.ceiling.IsFinite
  lower_isFinite : r.lower.IsFinite
  upper_isFinite : r.upper.IsFinite
  floor_le_lower : r.floor ≤ r.lower
  lower_le_upper : r.lower ≤ r.upper
  upper_le_ceiling : r.upper ≤ r.ceiling

/-- The ranks of ordered bounds are in order. -/
theorem Ordered.rank_le (h : r.Ordered) :
    r.floor.rank ≤ r.lower.rank ∧ r.lower.rank ≤ r.upper.rank ∧
      r.upper.rank ≤ r.ceiling.rank :=
  ⟨h.floor_le_lower.2.2, h.lower_le_upper.2.2, h.upper_le_ceiling.2.2⟩

theorem Ordered.isFinite_of_mem (h : r.Ordered) : ∀ x ∈ r.bounds, x.IsFinite := by
  simp [bounds, h.floor_isFinite, h.ceiling_isFinite, h.lower_isFinite, h.upper_isFinite]

/-- Where the selection lies in the domain, the ranks tell whether it is narrowed. -/
theorem narrowed_iff_rank (hfl : r.floor ≤ r.lower) (huc : r.upper ≤ r.ceiling) :
    r.Narrowed ↔ r.floor.rank < r.lower.rank ∨ r.upper.rank < r.ceiling.rank := by
  rw [Narrowed, lt_iff_rank hfl.1 hfl.2.1, lt_iff_rank huc.1 huc.2.1]

/-- Between finite ends of the domain the ranks alone decide. -/
theorem ordered_of_rank (hf : r.floor.IsFinite) (hc : r.ceiling.IsFinite)
    (hfl : r.floor.rank ≤ r.lower.rank) (hlu : r.lower.rank ≤ r.upper.rank)
    (huc : r.upper.rank ≤ r.ceiling.rank) : r.Ordered := by
  have hl : r.lower.IsFinite := isFinite_of_rank hf hc hfl (hlu.trans huc)
  have hu : r.upper.IsFinite := isFinite_of_rank hf hc (hfl.trans hlu) huc
  refine ⟨hf, hc, hl, hu, ?_, ?_, ?_⟩
  · exact (le_iff_rank hf.not_isNaN hl.not_isNaN).2 hfl
  · exact (le_iff_rank hl.not_isNaN hu.not_isNaN).2 hlu
  · exact (le_iff_rank hu.not_isNaN hc.not_isNaN).2 huc

/-- The check of the bounds finds no fault exactly in ordered ranges. -/
theorem inOrder_iff_ordered : r.InOrder ↔ r.Ordered := by
  unfold InOrder boundsFault? bounds
  constructor
  · intro h
    split_ifs at h with hfin hfl hlu huc
    simp only [List.mem_cons, List.not_mem_nil, or_false, not_exists, not_and, not_not,
      forall_eq_or_imp, forall_eq] at hfin
    obtain ⟨hf, hc, hl, hu⟩ := hfin
    refine ⟨hf, hc, hl, hu, ?_, ?_, ?_⟩
    · exact le_of_not_lt hl.not_isNaN hf.not_isNaN hfl
    · exact le_of_not_lt hu.not_isNaN hl.not_isNaN hlu
    · exact le_of_not_lt hc.not_isNaN hu.not_isNaN huc
  · intro h
    have hfin : ¬∃ x ∈ [r.floor, r.ceiling, r.lower, r.upper], ¬x.IsFinite := by
      rintro ⟨x, hx, hnot⟩
      exact hnot (h.isFinite_of_mem x hx)
    rw [if_neg hfin, if_neg (not_lt_of_le h.floor_le_lower),
      if_neg (not_lt_of_le h.lower_le_upper), if_neg (not_lt_of_le h.upper_le_ceiling)]

/-- The check for the filter of an aspect passes exactly in ordered ranges. -/
theorem checkBounds_eq_ok_iff {a : Aspect} : r.checkBounds a = .ok () ↔ r.Ordered := by
  rw [← inOrder_iff_ordered, InOrder, checkBounds]
  cases r.boundsFault? <;> simp

/-- The range that selects a whole domain is ordered if the domain is. -/
theorem ordered_untouched {floor ceiling : Binary64} (hf : floor.IsFinite)
    (hc : ceiling.IsFinite) (h : floor ≤ ceiling) : (untouched floor ceiling).Ordered :=
  ordered_of_rank hf hc le_rfl h.2.2 le_rfl

/-- With both sliders at their ends nothing is narrowed, whatever the ends are. -/
theorem not_narrowed_of_eq (hl : r.lower = r.floor) (hu : r.upper = r.ceiling) :
    ¬r.Narrowed := by
  rw [Narrowed, hl, hu]
  rintro (h | h)
  · exact lt_irrefl _ h.2.2
  · exact lt_irrefl _ h.2.2

/-- The range that selects a whole domain is not narrowed, whatever the domain is. -/
theorem not_narrowed_untouched (floor ceiling : Binary64) :
    ¬(untouched floor ceiling).Narrowed :=
  not_narrowed_of_eq rfl rfl

/-! ### Edits -/

/-- Whether an edit finds something to do or not, what it sets is set afterwards. -/
@[simp] theorem edit_enable (on : Bool) : r.edit (.enable on) = { r with enabled := on } := by
  simp only [edit, edit?]
  split
  · subst on; rfl
  · rfl

@[simp] theorem edit_moveLower (x : Binary64) :
    r.edit (.moveLower x) = { r with lower := x } := by
  simp only [edit, edit?]
  split
  · subst x; rfl
  · rfl

@[simp] theorem edit_moveUpper (x : Binary64) :
    r.edit (.moveUpper x) = { r with upper := x } := by
  simp only [edit, edit?]
  split
  · subst x; rfl
  · rfl

@[simp] theorem edit_reset : r.edit .reset = { r with lower := r.floor, upper := r.ceiling } := by
  simp only [edit, edit?]
  split
  · rename_i h
    cases r
    simp only at h
    rw [h.1, h.2]; rfl
  · rfl

theorem edit_moveCeiling (x : Binary64) :
    r.edit (.moveCeiling x) = if r.ceiling = x then r else r.withCeiling x := by
  simp only [edit, edit?]
  split <;> rfl

theorem edit_restore (stored : Range) :
    r.edit (.restore stored) = if r.Same stored then r else stored := by
  simp only [edit, edit?]
  split <;> rfl

end TrackSieve.Range
