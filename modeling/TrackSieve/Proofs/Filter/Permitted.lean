import TrackSieve.Proofs.Ceilings.Load
import TrackSieve.Proofs.Filter.Scan
import TrackSieve.Proofs.Range.Ceiling

/-!
# Permitted runs

An owner that keeps its promises never gets a filter out of order. A permitted operation takes
ordered bounds to ordered bounds, so a permitted run does, and the filters that a program starts
with have ordered bounds: zero or a floor of its own below, a finite ceiling above.
-/

namespace TrackSieve

open Binary64

/-- What an owner promises can be checked before an operation is carried out. -/
instance (r : Range) : (op : Operation) → Decidable (op.Permitted r)
  | .edit (.moveLower x) => inferInstanceAs (Decidable (r.floor ≤ x ∧ x ≤ r.upper))
  | .edit (.moveUpper x) => inferInstanceAs (Decidable (r.lower ≤ x ∧ x ≤ r.ceiling))
  | .edit (.moveCeiling x) => inferInstanceAs (Decidable (x.IsFinite ∧ r.floor < x))
  | .edit (.restore stored) => inferInstanceAs (Decidable stored.InOrder)
  | .edit (.enable _) => isTrue trivial
  | .edit .reset => isTrue trivial
  | .select _ => isTrue trivial

/-- A permitted edit keeps the bounds in order. -/
theorem Range.Ordered.edit {r : Range} {e : Edit} (h : r.Ordered)
    (hp : (Operation.edit e).Permitted r) : (r.edit e).Ordered := by
  obtain ⟨hfl, hlu, huc⟩ := h.rank_le
  cases e with
  | enable on =>
    rw [edit_enable]
    exact ⟨h.1, h.2, h.3, h.4, h.5, h.6, h.7⟩
  | moveLower x =>
    obtain ⟨hfx, hxu⟩ := hp
    rw [edit_moveLower]
    exact ordered_of_rank h.floor_isFinite h.ceiling_isFinite hfx.2.2 hxu.2.2 huc
  | moveUpper x =>
    obtain ⟨hlx, hxc⟩ := hp
    rw [edit_moveUpper]
    exact ordered_of_rank h.floor_isFinite h.ceiling_isFinite hfl hlx.2.2 hxc.2.2
  | reset =>
    rw [edit_reset]
    refine ordered_of_rank h.floor_isFinite h.ceiling_isFinite le_rfl ?_ le_rfl
    exact hfl.trans (hlu.trans huc)
  | moveCeiling x => exact h.moveCeiling hp.1 hp.2
  | restore stored =>
    rw [edit_restore]
    split
    · exact h
    · exact inOrder_iff_ordered.1 hp

namespace RangeFilter

variable {ρ : Type} {f : RangeFilter ρ} {gauge : Gauge ρ}

instance decidablePermittedRun (f : RangeFilter ρ) :
    (ops : List Operation) → Decidable (f.PermittedRun ops)
  | [] => isTrue trivial
  | op :: ops =>
    have := decidablePermittedRun (f.apply op).1 ops
    inferInstanceAs (Decidable (_ ∧ _))

/-- A permitted operation keeps the bounds in order. -/
theorem ordered_apply {op : Operation} (h : f.range.Ordered) (hp : op.Permitted f.range) :
    (f.apply op).1.range.Ordered := by
  cases op with
  | edit e =>
    rw [range_apply_edit]
    exact h.edit hp
  | select m => exact h

/-- A permitted run keeps the bounds in order. -/
theorem PermittedRun.ordered_run {ops : List Operation} (hp : f.PermittedRun ops)
    (h : f.range.Ordered) : (f.run ops).range.Ordered := by
  induction ops generalizing f with
  | nil => exact h
  | cons op ops ih => exact ih hp.2 (ordered_apply h hp.1)

/-- No run changes how records are read. -/
@[simp] theorem gauge_run (ops : List Operation) : (f.run ops).gauge = f.gauge := by
  induction ops generalizing f with
  | nil => rfl
  | cons op ops ih => rw [run_cons, ih, gauge_apply]

/-- The filters of a gauge that a program starts with: the domain is given, or it reaches from zero
to the ceiling of the gauge or to a ceiling of a deployment. -/
inductive Started (gauge : Gauge ρ) : RangeFilter ρ → Prop
  | ofGauge (hc : gauge.defaultCeiling.IsFinite) (h : zeroOf false ≤ gauge.defaultCeiling) :
    Started gauge (ofGauge gauge)
  | ofBounds {floor ceiling : Binary64} (hf : floor.IsFinite) (hc : ceiling.IsFinite)
    (h : floor ≤ ceiling) : Started gauge (ofBounds gauge floor ceiling)
  | ofCeilings {c : Ceilings} (h : c.check = .ok ()) : Started gauge (ofCeilings gauge c).1

theorem Started.ordered (h : Started gauge f) : f.range.Ordered := by
  cases h with
  | ofGauge hc h => exact Range.ordered_untouched (isFinite_zeroOf false) hc h
  | ofBounds hf hc h => exact Range.ordered_untouched hf hc h
  | ofCeilings h =>
    obtain ⟨hfin, hpos⟩ := Ceilings.check_eq_ok_iff.1 h gauge.aspect.ceiling
    exact Range.ordered_untouched (isFinite_zeroOf false) hfin (Binary64.le_of_lt hpos)

/-- **Permitted runs keep the bounds in order.** After any permitted run from a started filter the
check of the bounds passes: the bounds are finite and `floor ≤ lower ≤ upper ≤ ceiling`. So every
record and every list of records can be judged, however the list is cut into pieces. -/
theorem checkBounds_run (hf : Started gauge f) {ops : List Operation} (hp : f.PermittedRun ops) :
    (f.run ops).range.checkBounds gauge.aspect = .ok () ∧ (f.run ops).range.Ordered ∧
      (∀ record, ∃ verdict, (f.run ops).judge record = .ok verdict) ∧
      (∀ records, ∃ kept, (f.run ops).accepted records = .ok kept) ∧
      ∀ s : Split ρ, ∃ kept, (f.run ops).acceptedOf s = .ok kept := by
  have hord := hp.ordered_run hf.ordered
  have hjudge := exists_judge_eq_ok hord.lower_le_upper
  have hscan : ∀ records, ∃ kept, (f.run ops).accepted records = .ok kept := fun records =>
    ⟨_, accepted_eq_ok_filter fun record _ => hjudge record⟩
  refine ⟨Range.checkBounds_eq_ok_iff.2 hord, hord, hjudge, hscan, fun s => ?_⟩
  rw [acceptedOf_eq_accepted]
  exact hscan s.records

/-- On a domain that starts at the negative zero the ceiling comes down to the least positive
number, which leaves the selection nothing but zero. -/
theorem checkBounds_run_least_ceiling :
    let f := ofBounds Aspect.length.gauge (zeroOf true) (ofBits 0x4072c00000000000)
    let ops := [.edit (.enable true), .edit (.moveUpper (ofBits 0x4059000000000000)),
      .edit (.moveLower (ofBits 0x404e000000000000)), .select .milesAndFeet,
      .edit (.moveCeiling (ofBits 1)), .edit (.moveUpper (ofBits 1)), .edit .reset]
    Started Aspect.length.gauge f ∧ f.PermittedRun ops ∧
      (f.run ops).range.checkBounds .length = .ok () ∧
      ∀ records, ∃ kept, (f.run ops).accepted records = .ok kept := by
  intro f ops
  have hf : Started Aspect.length.gauge f :=
    .ofBounds (isFinite_zeroOf true) (by decide) (by decide)
  have hp : f.PermittedRun ops := by decide +kernel
  exact ⟨hf, hp, (checkBounds_run hf hp).1, (checkBounds_run hf hp).2.2.2.1⟩

end RangeFilter

end TrackSieve
