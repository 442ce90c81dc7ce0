import TrackSieve.Proofs.Range.Ceiling

/-!
# Ranges that are the same as numbers

Ranges whose bounds are equal as numbers may differ in the signs of zeros, and an edit compares some
bounds bit by bit and others as numbers. So of two such ranges one may be rewritten by an edit that
leaves the other alone. They stay the same as numbers all the same: for ordered ranges this is
equality of ranks, and the ranks after a permitted edit depend only on those before it.
-/

namespace TrackSieve.Range

open Binary64

variable {r s t : Range} {v : Binary64}

protected theorem Same.symm (h : r.Same s) : s.Same r := by
  obtain ⟨hf, hc, hl, hu, he⟩ := h
  exact ⟨hf.symm, hc.symm, hl.symm, hu.symm, he.symm⟩

protected theorem Same.trans (h : r.Same s) (h' : s.Same t) : r.Same t := by
  obtain ⟨hf, hc, hl, hu, he⟩ := h
  obtain ⟨hf', hc', hl', hu', he'⟩ := h'
  exact ⟨hf.trans hf', hc.trans hc', hl.trans hl', hu.trans hu', he.trans he'⟩

/-- Ordered ranges are the same if their ranks are. -/
theorem Ordered.same_of_rank (hr : r.Ordered) (hs : s.Ordered)
    (hf : r.floor.rank = s.floor.rank) (hc : r.ceiling.rank = s.ceiling.rank)
    (hl : r.lower.rank = s.lower.rank) (hu : r.upper.rank = s.upper.rank)
    (he : r.enabled = s.enabled) : r.Same s := by
  refine ⟨⟨?_, ?_, hf⟩, ⟨?_, ?_, hc⟩, ⟨?_, ?_, hl⟩, ⟨?_, ?_, hu⟩, he⟩
  · exact hr.floor_isFinite.not_isNaN
  · exact hs.floor_isFinite.not_isNaN
  · exact hr.ceiling_isFinite.not_isNaN
  · exact hs.ceiling_isFinite.not_isNaN
  · exact hr.lower_isFinite.not_isNaN
  · exact hs.lower_isFinite.not_isNaN
  · exact hr.upper_isFinite.not_isNaN
  · exact hs.upper_isFinite.not_isNaN

theorem Ordered.same_refl (h : r.Ordered) : r.Same r :=
  h.same_of_rank h rfl rfl rfl rfl rfl

theorem Same.ordered (h : r.Same s) (hr : r.Ordered) : s.Ordered := by
  obtain ⟨hf, hc, hl, hu, -⟩ := h
  obtain ⟨hfl, hlu, huc⟩ := hr.rank_le
  refine ordered_of_rank (hf.isFinite_iff.1 hr.floor_isFinite)
    (hc.isFinite_iff.1 hr.ceiling_isFinite) ?_ ?_ ?_
  · rwa [← hf.2.2, ← hl.2.2]
  · rwa [← hl.2.2, ← hu.2.2]
  · rwa [← hu.2.2, ← hc.2.2]

/-! ### Bits and numbers -/

/-- A range is the same as itself exactly if none of its bounds is a NaN. -/
theorem same_self_iff : r.Same r ↔ ∀ x ∈ r.bounds, ¬x.IsNaN := by
  simp [Same, numEq_def, bounds]

/-- Ranges that are the same as numbers agree bit by bit if no bound of the second is a zero. -/
theorem Same.eq_of_not_isZero (h : r.Same s) (hzero : ∀ x ∈ s.bounds, ¬x.IsZero) : r = s := by
  have eq_of_numEq : ∀ {x y : Binary64}, x.NumEq y → y ∈ s.bounds → x = y := by
    intro x y hxy hy
    rcases hxy.eq_or_isZero with heq | ⟨-, hz⟩
    · exact heq
    · exact (hzero y hy hz).elim
  obtain ⟨hf, hc, hl, hu, he⟩ := h
  have hfloor : r.floor = s.floor := eq_of_numEq hf (by simp [bounds])
  have hceiling : r.ceiling = s.ceiling := eq_of_numEq hc (by simp [bounds])
  have hlower : r.lower = s.lower := eq_of_numEq hl (by simp [bounds])
  have hupper : r.upper = s.upper := eq_of_numEq hu (by simp [bounds])
  cases r
  cases s
  simp_all only

/-! ### What is seen of a range -/

theorem Same.lowerAtFloor_iff (h : r.Same s) : r.LowerAtFloor ↔ s.LowerAtFloor := by
  obtain ⟨hf, -, hl, -, -⟩ := h
  simp only [LowerAtFloor, numEq_def, hf.1, hf.2.1, hf.2.2, hl.1, hl.2.1, hl.2.2]

theorem Same.upperAtCeiling_iff (h : r.Same s) : r.UpperAtCeiling ↔ s.UpperAtCeiling := by
  obtain ⟨-, hc, -, hu, -⟩ := h
  simp only [UpperAtCeiling, numEq_def, hc.1, hc.2.1, hc.2.2, hu.1, hu.2.1, hu.2.2]

/-- The same values are selected, NaNs and infinities included. -/
theorem Same.accepts_iff (h : r.Same s) : r.Accepts v ↔ s.Accepts v := by
  rw [Accepts, Accepts, h.lowerAtFloor_iff, h.upperAtCeiling_iff]
  obtain ⟨hf, hc, hl, hu, -⟩ := h
  rw [hl.lt_iff_left, hu.lt_iff_right, hf.lt_iff_right, hc.lt_iff_left]

theorem Same.narrowed_iff (h : r.Same s) : r.Narrowed ↔ s.Narrowed := by
  obtain ⟨hf, hc, hl, hu, -⟩ := h
  rw [Narrowed, Narrowed, hf.lt_iff_left, hl.lt_iff_right, hu.lt_iff_left, hc.lt_iff_right]

/-- The same operations are permitted. -/
theorem Same.permitted_iff (h : r.Same s) (op : Operation) : op.Permitted r ↔ op.Permitted s := by
  obtain ⟨hf, hc, hl, hu, -⟩ := h
  match op with
  | .edit (.moveLower x) =>
    simp only [Operation.Permitted]
    rw [hf.le_iff_left, hu.le_iff_right]
  | .edit (.moveUpper x) =>
    simp only [Operation.Permitted]
    rw [hl.le_iff_left, hc.le_iff_right]
  | .edit (.moveCeiling x) =>
    simp only [Operation.Permitted]
    rw [hf.lt_iff_left]
  | .edit (.restore stored) => exact Iff.rfl
  | .edit (.enable on) => exact Iff.rfl
  | .edit .reset => exact Iff.rfl
  | .select m => exact Iff.rfl

/-! ### Edits -/

/-- The ranks under a new ceiling depend only on the ranks before, whether or not the ceiling was
there already under the other sign of zero. -/
theorem Same.moveCeiling {x : Binary64} (h : r.Same s) (hr : r.Ordered) (hx : x.IsFinite)
    (hfx : r.floor < x) : (r.edit (.moveCeiling x)).Same (s.edit (.moveCeiling x)) := by
  have hs := h.ordered hr
  have hfx' : s.floor < x := h.1.lt_iff_left.1 hfx
  -- the upper bounds follow the ceiling or stay below it together
  have hupper : (r.edit (.moveCeiling x)).upper.rank = (s.edit (.moveCeiling x)).upper.rank := by
    by_cases hu : r.UpperAtCeiling
    · rw [rank_upper_moveCeiling_of_upperAtCeiling hu,
        rank_upper_moveCeiling_of_upperAtCeiling (h.upperAtCeiling_iff.1 hu)]
    · have hu' : ¬s.UpperAtCeiling := fun hsu => hu (h.upperAtCeiling_iff.2 hsu)
      rw [hr.rank_upper_moveCeiling hx (hr.not_upperAtCeiling_iff.1 hu),
        hs.rank_upper_moveCeiling hx (hs.not_upperAtCeiling_iff.1 hu'), h.2.2.2.1.2.2]
  refine (hr.moveCeiling hx hfx).same_of_rank (hs.moveCeiling hx hfx') ?_ ?_ ?_ hupper ?_
  · rw [floor_edit_moveCeiling, floor_edit_moveCeiling, h.1.2.2]
  · rw [ceiling_edit_moveCeiling, ceiling_edit_moveCeiling]
  · rw [hr.rank_lower_moveCeiling hx, hs.rank_lower_moveCeiling hx, hupper, h.2.2.1.2.2]
  · rw [enabled_edit_moveCeiling, enabled_edit_moveCeiling, h.2.2.2.2]

/-- Putting a stored range in place makes any two ranges the same if they were, and if only one of
them is overwritten, then the other was the same as the stored range already. -/
theorem Same.restore {stored : Range} (h : r.Same s) (hstored : stored.Ordered) :
    (r.edit (.restore stored)).Same (s.edit (.restore stored)) := by
  rw [edit_restore, edit_restore]
  by_cases hr : r.Same stored
  · rw [if_pos hr, if_pos (h.symm.trans hr)]
    exact h
  · have hs : ¬s.Same stored := fun hs => hr (h.trans hs)
    rw [if_neg hr, if_neg hs]
    exact hstored.same_refl

/-- **A permitted edit keeps ranges the same.** -/
theorem Same.edit {e : Edit} (h : r.Same s) (hr : r.Ordered)
    (hp : (Operation.edit e).Permitted r) : (r.edit e).Same (s.edit e) := by
  obtain ⟨hf, hc, hl, hu, he⟩ := h
  cases e with
  | enable on =>
    rw [edit_enable, edit_enable]
    exact ⟨hf, hc, hl, hu, rfl⟩
  | moveLower x =>
    obtain ⟨⟨-, hx, -⟩, -⟩ := hp
    rw [edit_moveLower, edit_moveLower]
    exact ⟨hf, hc, NumEq.refl hx, hu, he⟩
  | moveUpper x =>
    obtain ⟨⟨-, hx, -⟩, -⟩ := hp
    rw [edit_moveUpper, edit_moveUpper]
    exact ⟨hf, hc, hl, NumEq.refl hx, he⟩
  | reset =>
    rw [edit_reset, edit_reset]
    exact ⟨hf, hc, hf, hc, he⟩
  | moveCeiling x => exact Same.moveCeiling ⟨hf, hc, hl, hu, he⟩ hr hp.1 hp.2
  | restore stored => exact Same.restore ⟨hf, hc, hl, hu, he⟩ (inOrder_iff_ordered.1 hp)

end TrackSieve.Range
