import TrackSieve.Proofs.Filter.Permitted

/-!
# The upper outlier switch

Values above the domain are accepted as long as the upper bound sits on the ceiling. Nothing but the
owner of the upper slider turns this switch: moves of the ceiling carry it along, and switching the
filter, selecting a system and moving the lower bound do not touch it. In ordered ranges moves of
the ceiling above the floor do not tell a narrowed selection from an open one either.
-/

namespace TrackSieve

open Binary64

/-- An operation that leaves the upper slider to its owner: it selects a system, switches the
filter, moves the lower bound anywhere, or moves the ceiling to a finite number. -/
def Operation.SparesUpper : Operation → Prop
  | .edit (.moveCeiling x) => x.IsFinite
  | .edit (.enable _) | .edit (.moveLower _) | .select _ => True
  | .edit (.moveUpper _) | .edit .reset | .edit (.restore _) => False

instance : (op : Operation) → Decidable op.SparesUpper
  | .edit (.moveCeiling x) => inferInstanceAs (Decidable x.IsFinite)
  | .edit (.enable _) | .edit (.moveLower _) | .select _ => isTrue trivial
  | .edit (.moveUpper _) | .edit .reset | .edit (.restore _) => isFalse id

namespace Range

/-- Above the floor a new ceiling leaves a narrowed selection narrowed and an open one open. -/
theorem Ordered.narrowed_moveCeiling {r : Range} {x : Binary64} (h : r.Ordered)
    (hx : x.IsFinite) (hf : r.floor < x) :
    (r.edit (.moveCeiling x)).Narrowed ↔ r.Narrowed := by
  have h' := h.moveCeiling hx hf
  rw [narrowed_iff_rank h'.floor_le_lower h'.upper_le_ceiling,
    narrowed_iff_rank h.floor_le_lower h.upper_le_ceiling, floor_edit_moveCeiling,
    ceiling_edit_moveCeiling]
  have hfx := hf.2.2
  have hrank := h.rank_le
  have hlower := h.rank_lower_moveCeiling hx
  by_cases hu : r.UpperAtCeiling
  · have huc := hu.2.2
    have hupper := rank_upper_moveCeiling_of_upperAtCeiling (x := x) hu
    omega
  · have hlt := h.not_upperAtCeiling_iff.1 hu
    have huc := hlt.2.2
    have hupper := h.rank_upper_moveCeiling hx hlt
    omega

end Range

namespace RangeFilter

variable {ρ : Type} {f : RangeFilter ρ}

/-- An operation that spares the upper slider keeps its position relative to the ceiling. Both stay
numbers, so the next operation can be looked at in the same way. -/
theorem upperAtCeiling_apply {op : Operation} (h : op.SparesUpper) (hu : ¬f.range.upper.IsNaN)
    (hc : ¬f.range.ceiling.IsNaN) :
    ¬(f.apply op).1.range.upper.IsNaN ∧ ¬(f.apply op).1.range.ceiling.IsNaN ∧
      ((f.apply op).1.range.UpperAtCeiling ↔ f.range.UpperAtCeiling) := by
  cases op with
  | select m => exact ⟨hu, hc, Iff.rfl⟩
  | edit e =>
    rw [range_apply_edit]
    cases e with
    | enable on =>
      rw [Range.edit_enable]
      exact ⟨hu, hc, Iff.rfl⟩
    | moveLower x =>
      rw [Range.edit_moveLower]
      exact ⟨hu, hc, Iff.rfl⟩
    | moveCeiling x =>
      have hx : x.IsFinite := h
      refine ⟨Range.not_isNaN_upper_moveCeiling hu hx.not_isNaN, ?_,
        Range.upperAtCeiling_moveCeiling hu hx⟩
      rw [Range.ceiling_edit_moveCeiling]
      exact hx.not_isNaN
    | moveUpper x => exact h.elim
    | reset => exact h.elim
    | restore stored => exact h.elim

theorem upperAtCeiling_run {ops : List Operation} (h : ∀ op ∈ ops, op.SparesUpper)
    (hu : ¬f.range.upper.IsNaN) (hc : ¬f.range.ceiling.IsNaN) :
    (f.run ops).range.UpperAtCeiling ↔ f.range.UpperAtCeiling := by
  induction ops generalizing f with
  | nil => exact Iff.rfl
  | cons op ops ih =>
    obtain ⟨hu', hc', hiff⟩ := upperAtCeiling_apply (h op List.mem_cons_self) hu hc
    rw [run_cons, ih (fun op' hop => h op' (List.mem_cons_of_mem _ hop)) hu' hc', hiff]

/-- The moves of the ceiling to the listed numbers, in order. -/
def ceilingMoves (xs : List Binary64) : List Operation := xs.map fun x => .edit (.moveCeiling x)

theorem narrowed_run_ceilingMoves {xs : List Binary64} (h : f.range.Ordered)
    (hp : f.PermittedRun (ceilingMoves xs)) :
    (f.run (ceilingMoves xs)).range.Narrowed ↔ f.range.Narrowed := by
  induction xs generalizing f with
  | nil => exact Iff.rfl
  | cons x xs ih =>
    obtain ⟨⟨hx, hf⟩, hrest⟩ := hp
    have hstep : (f.apply (.edit (.moveCeiling x))).1.range.Narrowed ↔ f.range.Narrowed := by
      rw [range_apply_edit]
      exact h.narrowed_moveCeiling hx hf
    rw [← hstep]
    exact ih (ordered_apply h ⟨hx, hf⟩) hrest

/-- **The upper outlier switch belongs to the owner of the upper slider.** From any state whose
upper bound and ceiling are numbers, in whatever order, operations that spare the upper slider leave
the upper bound on the ceiling or off it, as it was. From bounds in order, moves of the ceiling to
finite numbers above the floor leave the selection narrowed or open, as it was. -/
theorem upper_switch_kept (f : RangeFilter ρ) :
    (¬f.range.upper.IsNaN → ¬f.range.ceiling.IsNaN →
      ∀ ops : List Operation, (∀ op ∈ ops, op.SparesUpper) →
        ((f.run ops).range.UpperAtCeiling ↔ f.range.UpperAtCeiling)) ∧
    (f.range.InOrder → ∀ xs : List Binary64, f.PermittedRun (ceilingMoves xs) →
      ((f.run (ceilingMoves xs)).range.Narrowed ↔ f.range.Narrowed)) :=
  ⟨fun hu hc _ h => upperAtCeiling_run h hu hc,
    fun h _ hp => narrowed_run_ceilingMoves (Range.inOrder_iff_ordered.1 h) hp⟩

/-- The ceiling comes down onto a narrowed upper bound, goes to the least finite number, whose
neighbour is infinite, and comes back to zeros of either sign. -/
theorem upper_switch_kept_at_edges :
    let f : RangeFilter Track := { ofGauge Aspect.length.gauge with
      range := ⟨zeroOf false, ofBits 0x4072c00000000000, nan, ofBits 0x4059000000000000, true⟩ }
    let ops := [.edit (.moveCeiling (ofBits 0x4059000000000000)), .edit (.moveLower nan),
      .edit (.moveCeiling (ofBits 0xffefffffffffffff)), .select .milesAndFeet,
      .edit (.moveCeiling (zeroOf true)), .edit (.moveCeiling (zeroOf false))]
    let g : RangeFilter Track := ofGauge Aspect.length.gauge
    let xs := [ofBits 1, ofBits 0x4059000000000000]
    ((f.run ops).range.UpperAtCeiling ↔ f.range.UpperAtCeiling) ∧
      ((g.run (ceilingMoves xs)).range.Narrowed ↔ g.range.Narrowed) := by
  intro f ops g xs
  exact ⟨(upper_switch_kept f).1 (by decide) (by decide) ops (by decide),
    (upper_switch_kept g).2 (by decide +kernel) xs (by decide +kernel)⟩

end RangeFilter

end TrackSieve
