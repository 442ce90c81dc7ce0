import TrackSieve.Proofs.Range.Ordered

/-!
# Moving the ceiling

A move of the ceiling treats the selection in one of two ways. An upper bound on the old ceiling
goes to the new one; any other is cut off one step below the new ceiling. In both cases the lower
bound is cut off at the upper one. Stated in ranks both cuts are minima, and in ordered ranges these
equations hold whether or not the edit finds something to do.
-/

namespace TrackSieve.Range

open Binary64

variable {r : Range} {x : Binary64}

/-! ### The adjusted selection -/

@[simp] theorem floor_withCeiling : (r.withCeiling x).floor = r.floor := rfl

@[simp] theorem ceiling_withCeiling : (r.withCeiling x).ceiling = x := rfl

@[simp] theorem enabled_withCeiling : (r.withCeiling x).enabled = r.enabled := rfl

theorem upper_withCeiling_of_upperAtCeiling (h : r.UpperAtCeiling) :
    (r.withCeiling x).upper = x := by
  simp only [withCeiling, if_pos h]

theorem upper_withCeiling_of_not_upperAtCeiling (h : ¬r.UpperAtCeiling) :
    (r.withCeiling x).upper = if x ≤ r.upper then x.nextDown else r.upper := by
  simp only [withCeiling, if_neg h]

theorem lower_withCeiling :
    (r.withCeiling x).lower =
      if (r.withCeiling x).upper < r.lower then (r.withCeiling x).upper else r.lower := rfl

theorem not_isNaN_upper_withCeiling (hu : ¬r.upper.IsNaN) (hx : ¬x.IsNaN) :
    ¬(r.withCeiling x).upper.IsNaN := by
  by_cases h : r.UpperAtCeiling
  · rwa [upper_withCeiling_of_upperAtCeiling h]
  · rw [upper_withCeiling_of_not_upperAtCeiling h]
    split
    · exact not_isNaN_nextDown hx
    · exact hu

/-- An upper bound away from the ceiling is cut off one step below the new ceiling. -/
theorem rank_upper_withCeiling (hu : ¬r.upper.IsNaN) (hx : x.IsFinite)
    (h : ¬r.UpperAtCeiling) :
    (r.withCeiling x).upper.rank = min r.upper.rank (x.rank - 1) := by
  rw [upper_withCeiling_of_not_upperAtCeiling h]
  by_cases hle : x ≤ r.upper
  · rw [if_pos hle, rank_nextDown hx]
    have := hle.2.2
    omega
  · rw [if_neg hle]
    rw [le_iff_rank hx.not_isNaN hu] at hle
    omega

/-- The lower bound is cut off at the upper one. -/
theorem rank_lower_withCeiling (hl : ¬r.lower.IsNaN) (hu : ¬(r.withCeiling x).upper.IsNaN) :
    (r.withCeiling x).lower.rank = min r.lower.rank (r.withCeiling x).upper.rank := by
  rw [lower_withCeiling]
  by_cases hlt : (r.withCeiling x).upper < r.lower
  · rw [if_pos hlt]
    have := hlt.2.2
    omega
  · rw [if_neg hlt]
    rw [lt_iff_rank hu hl] at hlt
    omega

/-! ### The edit -/

@[simp] theorem floor_edit_moveCeiling : (r.edit (.moveCeiling x)).floor = r.floor := by
  rw [edit_moveCeiling]
  split <;> rfl

@[simp] theorem enabled_edit_moveCeiling :
    (r.edit (.moveCeiling x)).enabled = r.enabled := by
  rw [edit_moveCeiling]
  split <;> rfl

@[simp] theorem ceiling_edit_moveCeiling : (r.edit (.moveCeiling x)).ceiling = x := by
  rw [edit_moveCeiling]
  split
  · assumption
  · rfl

theorem not_isNaN_upper_moveCeiling (hu : ¬r.upper.IsNaN) (hx : ¬x.IsNaN) :
    ¬(r.edit (.moveCeiling x)).upper.IsNaN := by
  rw [edit_moveCeiling]
  split
  · exact hu
  · exact not_isNaN_upper_withCeiling hu hx

/-- The upper bound sits on the new ceiling exactly if it sat on the old one. This needs no order
among the bounds: a bound that is cut off ends strictly below the new ceiling. -/
theorem upperAtCeiling_moveCeiling (hu : ¬r.upper.IsNaN) (hx : x.IsFinite) :
    (r.edit (.moveCeiling x)).UpperAtCeiling ↔ r.UpperAtCeiling := by
  rw [edit_moveCeiling]
  split
  · rfl
  by_cases h : r.UpperAtCeiling
  · refine iff_of_true ?_ h
    rw [UpperAtCeiling, upper_withCeiling_of_upperAtCeiling h]
    exact NumEq.refl hx.not_isNaN
  · refine iff_of_false ?_ h
    rw [UpperAtCeiling, ceiling_withCeiling,
      numEq_iff_rank (not_isNaN_upper_withCeiling hu hx.not_isNaN) hx.not_isNaN,
      rank_upper_withCeiling hu hx h]
    omega

theorem not_upperAtCeiling_of_lt (h : r.upper < r.ceiling) : ¬r.UpperAtCeiling := by
  rintro ⟨-, -, heq⟩
  have hlt := h.2.2
  omega

/-- A narrowed upper bound that the new ceiling does not clear ends one step below the ceiling. -/
theorem upper_moveCeiling_of_le (h : r.upper < r.ceiling) (hx : x ≤ r.upper) :
    (r.edit (.moveCeiling x)).upper = x.nextDown := by
  have hne : r.ceiling ≠ x := by
    rintro rfl
    have hlt := h.2.2
    have hle := hx.2.2
    omega
  rw [edit_moveCeiling, if_neg hne,
    upper_withCeiling_of_not_upperAtCeiling (not_upperAtCeiling_of_lt h), if_pos hx]

/-! ### Ordered ranges -/

theorem Ordered.not_upperAtCeiling_iff (h : r.Ordered) :
    ¬r.UpperAtCeiling ↔ r.upper < r.ceiling :=
  ⟨(lt_or_numEq_of_le h.upper_le_ceiling).resolve_right, not_upperAtCeiling_of_lt⟩

theorem rank_upper_moveCeiling_of_upperAtCeiling (h : r.UpperAtCeiling) :
    (r.edit (.moveCeiling x)).upper.rank = x.rank := by
  rw [edit_moveCeiling]
  split
  · subst x
    exact h.2.2
  · rw [upper_withCeiling_of_upperAtCeiling h]

theorem Ordered.rank_upper_moveCeiling (h : r.Ordered) (hx : x.IsFinite)
    (hlt : r.upper < r.ceiling) :
    (r.edit (.moveCeiling x)).upper.rank = min r.upper.rank (x.rank - 1) := by
  rw [edit_moveCeiling]
  split
  · subst x
    have := hlt.2.2
    omega
  · exact rank_upper_withCeiling h.upper_isFinite.not_isNaN hx (h.not_upperAtCeiling_iff.2 hlt)

theorem Ordered.rank_lower_moveCeiling (h : r.Ordered) (hx : x.IsFinite) :
    (r.edit (.moveCeiling x)).lower.rank =
      min r.lower.rank (r.edit (.moveCeiling x)).upper.rank := by
  rw [edit_moveCeiling]
  split
  · have := h.rank_le
    omega
  · exact rank_lower_withCeiling h.lower_isFinite.not_isNaN
      (not_isNaN_upper_withCeiling h.upper_isFinite.not_isNaN hx.not_isNaN)

/-- A finite ceiling keeps the bounds in order if the upper bound ends up between floor and
ceiling. -/
theorem Ordered.moveCeiling_of_rank (h : r.Ordered) (hx : x.IsFinite)
    (hfu : r.floor.rank ≤ (r.edit (.moveCeiling x)).upper.rank)
    (hux : (r.edit (.moveCeiling x)).upper.rank ≤ x.rank) :
    (r.edit (.moveCeiling x)).Ordered := by
  have hrank := h.rank_le
  have hlower := h.rank_lower_moveCeiling hx
  refine ordered_of_rank ?_ ?_ ?_ ?_ ?_
  · rw [floor_edit_moveCeiling]
    exact h.floor_isFinite
  · rw [ceiling_edit_moveCeiling]
    exact hx
  · rw [floor_edit_moveCeiling]
    omega
  · omega
  · rw [ceiling_edit_moveCeiling]
    exact hux

/-- A finite ceiling above the floor keeps the bounds in order. -/
theorem Ordered.moveCeiling (h : r.Ordered) (hx : x.IsFinite) (hf : r.floor < x) :
    (r.edit (.moveCeiling x)).Ordered := by
  have hrank := h.rank_le
  have hfx := hf.2.2
  have hupper : r.floor.rank ≤ (r.edit (.moveCeiling x)).upper.rank ∧
      (r.edit (.moveCeiling x)).upper.rank ≤ x.rank := by
    by_cases hu : r.UpperAtCeiling
    · rw [rank_upper_moveCeiling_of_upperAtCeiling hu]
      omega
    · rw [h.rank_upper_moveCeiling hx (h.not_upperAtCeiling_iff.1 hu)]
      omega
  exact h.moveCeiling_of_rank hx hupper.1 hupper.2

/-- A finite ceiling keeps the bounds in order exactly if it lies above the floor, or sits on it and
takes the upper bound along. -/
theorem Ordered.ordered_moveCeiling_iff (h : r.Ordered) (hx : x.IsFinite) :
    (r.edit (.moveCeiling x)).Ordered ↔
      r.floor < x ∨ (x.NumEq r.floor ∧ r.UpperAtCeiling) := by
  have hf := h.floor_isFinite.not_isNaN
  rw [lt_iff_rank hf hx.not_isNaN, numEq_iff_rank hx.not_isNaN hf]
  constructor
  · intro h'
    obtain ⟨hfl, hlu, huc⟩ := h'.rank_le
    rw [floor_edit_moveCeiling] at hfl
    rw [ceiling_edit_moveCeiling] at huc
    by_cases hu : r.UpperAtCeiling
    · rcases Int.lt_or_eq_of_le (hfl.trans (hlu.trans huc)) with hlt | heq
      · exact .inl hlt
      · exact .inr ⟨heq.symm, hu⟩
    · -- a narrowed upper bound ends below the ceiling, so there must be room above the floor
      left
      have hupper := h.rank_upper_moveCeiling hx (h.not_upperAtCeiling_iff.1 hu)
      omega
  · rintro (hlt | ⟨heq, hu⟩)
    · exact h.moveCeiling hx ((lt_iff_rank hf hx.not_isNaN).2 hlt)
    · have hupper := rank_upper_moveCeiling_of_upperAtCeiling (x := x) hu
      exact h.moveCeiling_of_rank hx (by omega) (by omega)

end TrackSieve.Range
