import TrackSieve.Proofs.Filter.Calibrated
import TrackSieve.Proofs.Filter.Permitted
import TrackSieve.Proofs.Range.Same
import TrackSieve.Proofs.Range.Stored

/-!
# Restored filters

A filter that restores the stored range of another one cannot be told apart from it afterwards. The
two may still differ in the signs of zeros, for a range that is the same as numbers is not
overwritten, so one of them may report an edit that the other does not. But whatever is permitted
to both, they accept the same records and show the same bounds.
-/

namespace TrackSieve

open Binary64

namespace RangeFilter

variable {ρ : Type} {f g : RangeFilter ρ} {gauge : Gauge ρ}

/-! ### Reached filters -/

/-- The filters of a gauge that any operations lead to, permitted or not, from any bounds. -/
inductive Reached (gauge : Gauge ρ) : RangeFilter ρ → Prop
  | run (floor ceiling : Binary64) (ops : List Operation) :
    Reached gauge ((ofBounds gauge floor ceiling).run ops)

theorem Reached.calibrated (h : Reached gauge f) : f.Calibrated := by
  obtain ⟨floor, ceiling, ops⟩ := h
  exact (calibrated_ofBounds gauge floor ceiling).run ops

theorem Reached.gauge_eq (h : Reached gauge f) : f.gauge = gauge := by
  obtain ⟨floor, ceiling, ops⟩ := h
  exact gauge_run ops

/-! ### Filters that are alike -/

/-- Filters that read records alike and whose ranges are in order and the same as numbers. -/
structure Alike (f g : RangeFilter ρ) : Prop where
  gauge_eq : f.gauge = g.gauge
  system_eq : f.system = g.system
  coefficient_eq : f.coefficient = g.coefficient
  ordered : f.range.Ordered
  same : f.range.Same g.range

theorem Alike.unit_eq (h : f.Alike g) : f.unit = g.unit := by
  rw [unit, unit, h.gauge_eq, h.system_eq]

theorem Alike.selects_iff (h : f.Alike g) (raw? : Option Binary64) :
    f.Selects raw? ↔ g.Selects raw? := by
  cases raw? with
  | none => exact Iff.rfl
  | some raw =>
    have hnormalize : f.normalize raw = g.normalize raw := by
      rw [normalize, normalize, h.gauge_eq, h.coefficient_eq]
    rw [Selects, Selects, hnormalize, h.same.accepts_iff]

/-- Filters that are alike judge every record alike. -/
theorem Alike.judge_eq (h : f.Alike g) (record : ρ) : f.judge record = g.judge record := by
  have henabled : f.range.enabled = g.range.enabled := h.same.2.2.2.2
  -- switched off, neither filter looks at the record
  cases he : f.range.enabled with
  | false => rw [judge_of_disabled he, judge_of_disabled (henabled ▸ he)]
  | true =>
    have hg := h.same.ordered h.ordered
    rw [judge_of_enabled he h.ordered.lower_le_upper,
      judge_of_enabled (henabled ▸ he) hg.lower_le_upper, h.gauge_eq]
    simp only [h.selects_iff]

/-- **A permitted operation keeps filters alike.** -/
theorem Alike.apply {op : Operation} (h : f.Alike g) (hp : op.Permitted f.range) :
    (f.apply op).1.Alike (g.apply op).1 := by
  have hordered := ordered_apply h.ordered hp
  cases op with
  | edit e =>
    refine ⟨?_, ?_, ?_, hordered, ?_⟩
    · rw [gauge_apply, gauge_apply, h.gauge_eq]
    · rw [system_apply_edit, system_apply_edit, h.system_eq]
    · rw [coefficient_apply_edit, coefficient_apply_edit, h.coefficient_eq]
    · rw [range_apply_edit, range_apply_edit]
      exact h.same.edit h.ordered hp
  | select m =>
    refine ⟨h.gauge_eq, rfl, ?_, hordered, h.same⟩
    simp only [RangeFilter.apply, h.gauge_eq]

/-- A run that is permitted to one of two filters that are alike is permitted to the other, and they
are alike after it. -/
theorem Alike.run {ops : List Operation} (h : f.Alike g) (hp : f.PermittedRun ops) :
    g.PermittedRun ops ∧ (f.run ops).Alike (g.run ops) := by
  induction ops generalizing f g with
  | nil => exact ⟨trivial, h⟩
  | cons op ops ih =>
    obtain ⟨hop, hrest⟩ := hp
    obtain ⟨hpermitted, halike⟩ := ih (h.apply hop) hrest
    exact ⟨⟨(h.same.permitted_iff op).1 hop, hpermitted⟩, halike⟩

/-! ### Restoring -/

/-- A filter in any state that restores the range of another filter is like the other one. -/
theorem alike_restore (hf : f.Calibrated) (hg : g.Calibrated) (hgauge : f.gauge = g.gauge)
    (hsystem : f.system = g.system) (h : f.range.Ordered) :
    f.Alike (g.apply (.edit (.restore f.range))).1 := by
  refine ⟨?_, ?_, ?_, h, ?_⟩
  · rw [gauge_apply, hgauge]
  · rw [system_apply_edit, hsystem]
  · rw [coefficient_apply_edit, hf, hg, hgauge, hsystem]
  · rw [range_apply_edit, Range.edit_restore]
    split
    · -- nothing is put in place, so signs of zeros may go on to differ
      rename_i hsame
      exact hsame.symm
    · exact h.same_refl

/-- **A filter that restores the stored range of another one behaves like it.** Let `f` be reached
by any operations with its bounds in order, and let `g` be of the same gauge, in the same system,
and with any range at all. The range that `f` stores is read back, and once `g` has restored it,
every run that is permitted to `f` is permitted to `g` too and leaves both with the same verdicts,
unit and factor and with bounds that are equal as numbers. -/
theorem restored_indistinguishable (hf : Reached gauge f) (hg : Reached gauge g)
    (hsystem : f.system = g.system) (h : f.range.InOrder) (r : Range) :
    ∃ stored, Range.load? f.range.store = some stored ∧
      ∀ ops : List Operation, f.PermittedRun ops →
        let g' := (({ g with range := r } : RangeFilter ρ).apply (.edit (.restore stored))).1
        g'.PermittedRun ops ∧ (f.run ops).range.Same (g'.run ops).range ∧
          (∀ record, (f.run ops).judge record = (g'.run ops).judge record) ∧
          ((f.run ops).range.Narrowed ↔ (g'.run ops).range.Narrowed) ∧
          (f.run ops).unit = (g'.run ops).unit ∧
          (f.run ops).coefficient = (g'.run ops).coefficient := by
  have hordered := Range.inOrder_iff_ordered.1 h
  -- what is read back is the range itself, bit by bit
  refine ⟨f.range, Range.load?_store hordered.isFinite_of_mem, ?_⟩
  intro ops hp g'
  have hcalibrated : ({ g with range := r } : RangeFilter ρ).Calibrated := hg.calibrated
  have hgauge : f.gauge = g.gauge := by rw [hf.gauge_eq, hg.gauge_eq]
  have halike : f.Alike g' := alike_restore hf.calibrated hcalibrated hgauge hsystem hordered
  obtain ⟨hpermitted, hrun⟩ := halike.run hp
  exact ⟨hpermitted, hrun.same, hrun.judge_eq, hrun.same.narrowed_iff, hrun.unit_eq,
    hrun.coefficient_eq⟩

/-- The floors are zeros of different sign, so the stored range is not put in place, and the run
resets one filter to the negative zero and the other to the positive one before the ceiling comes
down. -/
theorem restored_indistinguishable_zeros :
    let f : RangeFilter Track :=
      (ofBounds Aspect.length.gauge (zeroOf true) (ofBits 0x4072c00000000000)).run
        [.select .milesAndFeet, .edit (.moveUpper (ofBits 0x4059000000000000)),
          .edit (.enable true)]
    let g : RangeFilter Track := (ofBounds Aspect.length.gauge nan nan).run [.select .milesAndFeet]
    let r : Range := ⟨zeroOf false, ofBits 0x4072c00000000000, zeroOf false,
      ofBits 0x4059000000000000, true⟩
    let ops : List Operation := [.edit .reset, .edit (.moveCeiling (ofBits 1)),
      .edit (.moveUpper (zeroOf false))]
    f.PermittedRun ops ∧ ∃ stored, Range.load? f.range.store = some stored ∧
      ∀ record, (f.run ops).judge record =
        ((({ g with range := r } : RangeFilter Track).apply
          (.edit (.restore stored))).1.run ops).judge record := by
  intro f g r ops
  have hp : f.PermittedRun ops := by decide +kernel
  have hf : Reached Aspect.length.gauge f := .run _ _ _
  have hg : Reached Aspect.length.gauge g := .run _ _ _
  obtain ⟨stored, hstored, hops⟩ :=
    restored_indistinguishable hf hg rfl (by decide +kernel) r
  exact ⟨hp, stored, hstored, (hops ops hp).2.2.1⟩

end RangeFilter

end TrackSieve
