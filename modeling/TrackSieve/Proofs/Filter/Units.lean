import TrackSieve.Proofs.Filter.Calibrated
import TrackSieve.Proofs.Filter.Notified
import TrackSieve.Proofs.Filter.Permitted

/-!
# Units and ranges

Selecting a measurement system and editing the range do not interfere. Whatever else happens between
the selections, the last of them decides the factor and the unit in force; and without the
selections the same operations lead to the same range and notify the listener of the same. So a
verdict depends on the range and on the last selection only. Of that selection an aspect sees no
more than the scale of distances, or whether elevations are in feet, or nothing.
-/

namespace TrackSieve

open Event (notifications)

/-! ### Selections among operations -/

/-- The system that an operation selects. -/
def Operation.selected? : Operation → Option MeasurementSystem
  | .select m => some m
  | .edit _ => none

/-- The system in force after operations that start in a given one: the last that they select. -/
def lastSelected (m : MeasurementSystem) (ops : List Operation) : MeasurementSystem :=
  (ops.filterMap Operation.selected?).getLast?.getD m

/-- The operations without those that select a system. -/
def withoutSelections (ops : List Operation) : List Operation :=
  ops.filter fun op => op.selected?.isNone

section

variable (m m' : MeasurementSystem) (e : Edit) (ops : List Operation)

@[simp] theorem lastSelected_nil : lastSelected m [] = m := rfl

@[simp] theorem lastSelected_edit_cons :
    lastSelected m (.edit e :: ops) = lastSelected m ops := rfl

@[simp] theorem lastSelected_select_cons :
    lastSelected m (.select m' :: ops) = lastSelected m' ops := by
  simp [lastSelected, Operation.selected?, List.getLast?_cons]

@[simp] theorem withoutSelections_edit_cons :
    withoutSelections (.edit e :: ops) = .edit e :: withoutSelections ops := rfl

@[simp] theorem withoutSelections_select_cons :
    withoutSelections (.select m :: ops) = withoutSelections ops := rfl

end

namespace RangeFilter

variable {ρ : Type} {f g : RangeFilter ρ} {gauge : Gauge ρ}

/-! ### What each kind of operation leaves alone -/

/-- Edits between the selections do not change which system is in force. -/
theorem system_run (ops : List Operation) : (f.run ops).system = lastSelected f.system ops := by
  induction ops generalizing f with
  | nil => rfl
  | cons op ops ih =>
    rw [run_cons, ih]
    cases op with
    | edit e => rw [system_apply_edit, lastSelected_edit_cons]
    | select m => exact (lastSelected_select_cons f.system m ops).symm

theorem Calibrated.coefficient_run (h : f.Calibrated) (ops : List Operation) :
    (f.run ops).coefficient = (f.gauge.conversion (lastSelected f.system ops)).coefficient := by
  rw [h.run ops, gauge_run, system_run]

theorem unit_run (ops : List Operation) :
    (f.run ops).unit = (f.gauge.conversion (lastSelected f.system ops)).unit := by
  rw [unit, gauge_run, system_run]

/-- What an edit makes known depends only on the gauge and the range. -/
theorem events_apply_edit_congr (hgauge : f.gauge = g.gauge) (hrange : f.range = g.range)
    (e : Edit) : (f.apply (.edit e)).2 = (g.apply (.edit e)).2 := by
  cases h : g.range.edit? e with
  | none => rw [g.apply_edit_of_none h, f.apply_edit_of_none (hrange ▸ h)]
  | some r => rw [g.apply_edit_of_some h, f.apply_edit_of_some (hrange ▸ h), hgauge]

/-- Without its selections a run leads to the same range and to the same notifications. -/
theorem run_withoutSelections (hgauge : f.gauge = g.gauge) (hrange : f.range = g.range)
    (ops : List Operation) :
    (f.run ops).range = (g.run (withoutSelections ops)).range ∧
      notifications (f.events ops) = notifications (g.events (withoutSelections ops)) := by
  -- the two filters may be in different systems from the first selection on
  induction ops generalizing f g with
  | nil => exact ⟨hrange, rfl⟩
  | cons op ops ih =>
    cases op with
    | edit e =>
      have hgauge' : (f.apply (.edit e)).1.gauge = (g.apply (.edit e)).1.gauge := by
        rw [gauge_apply, gauge_apply, hgauge]
      have hrange' : (f.apply (.edit e)).1.range = (g.apply (.edit e)).1.range := by
        rw [range_apply_edit, range_apply_edit, hrange]
      obtain ⟨hrun, hevents⟩ := ih hgauge' hrange'
      rw [withoutSelections_edit_cons]
      refine ⟨hrun, ?_⟩
      rw [events, events, notifications_append, notifications_append, hevents,
        events_apply_edit_congr hgauge hrange]
    | select m =>
      obtain ⟨hrun, hevents⟩ := ih (f := (f.apply (.select m)).1) hgauge hrange
      rw [withoutSelections_select_cons]
      refine ⟨hrun, ?_⟩
      rw [events, notifications_append, notifications_apply_select, List.nil_append, hevents]

/-- A verdict depends only on the gauge, the range and the factor. -/
theorem judge_congr (hgauge : f.gauge = g.gauge) (hrange : f.range = g.range)
    (hcoefficient : f.coefficient = g.coefficient) (record : ρ) :
    f.judge record = g.judge record := by
  have hselects : ∀ raw?, f.Selects raw? ↔ g.Selects raw? := by
    intro raw?
    simp only [selects_iff, normalize, hgauge, hrange, hcoefficient]
  simp only [judge, hgauge, hrange, hselects]

/-! ### Where filters come from -/

/-- How a program comes by a filter: on a domain from zero to the ceiling of the gauge, on a given
domain, in order or not, or on one from zero to a ceiling of a deployment, checked or not, in the
system of that deployment. -/
inductive Origin
  | gauge
  | bounds (floor ceiling : Binary64)
  | ceilings (c : Ceilings)

namespace Origin

/-- The filter of a gauge, and what becomes known as it is made. -/
def make (gauge : Gauge ρ) : Origin → RangeFilter ρ × List Event
  | .gauge => (ofGauge gauge, [])
  | .bounds floor ceiling => (ofBounds gauge floor ceiling, [])
  | .ceilings c => ofCeilings gauge c

/-- The system that a filter starts in. -/
def system : Origin → MeasurementSystem
  | .gauge | .bounds _ _ => default
  | .ceilings c => c.system

variable (o : Origin)

@[simp] theorem gauge_make : (o.make gauge).1.gauge = gauge := by
  cases o <;> rfl

@[simp] theorem system_make : (o.make gauge).1.system = o.system := by
  cases o <;> rfl

@[simp] theorem notifications_make : notifications (o.make gauge).2 = [] := by
  cases o <;> rfl

theorem calibrated_make : (o.make gauge).1.Calibrated := by
  cases o <;> rfl

theorem coefficient_run_make (ops : List Operation) :
    ((o.make gauge).1.run ops).coefficient =
      (gauge.conversion (lastSelected o.system ops)).coefficient := by
  rw [o.calibrated_make.coefficient_run, gauge_make, system_make]

end Origin

end RangeFilter

/-! ### What an aspect sees of a system -/

/-- Two systems agree on what matters for showing an aspect. -/
def Aspect.ShownAlike (a : Aspect) (m m' : MeasurementSystem) : Prop :=
  match a with
  | .length | .maxSpeed | .averageSpeed => m.scale = m'.scale
  | .duration | .timeInMotion => True
  | .maxAltitude | .averageAltitude | .uphill | .downhill => m.usesFeet = m'.usesFeet

theorem Aspect.ShownAlike.conversion_eq {a : Aspect} {m m' : MeasurementSystem}
    (h : a.ShownAlike m m') : a.conversion m = a.conversion m' := by
  cases a with
  | length =>
    show Conversion.distance m = Conversion.distance m'
    rw [Conversion.distance, Conversion.distance, show m.scale = m'.scale from h]
  | maxSpeed | averageSpeed =>
    show Conversion.speed m = Conversion.speed m'
    rw [Conversion.speed, Conversion.speed, show m.scale = m'.scale from h]
  | duration | timeInMotion => rfl
  | maxAltitude | averageAltitude | uphill | downhill =>
    show Conversion.elevation m = Conversion.elevation m'
    rw [Conversion.elevation, Conversion.elevation, show m.usesFeet = m'.usesFeet from h]

namespace RangeFilter

variable {ρ : Type}

/-- **Units and ranges do not interfere.** After any operations on a filter of any origin: (a) the
factor and the unit in force are those of the last selected system, or of the one that the filter
started in; (b) the range, and all notifications from the making of the filter on, are those of the
same operations without the selections; (c) so filters of one gauge judge alike if their ranges and
last selections agree, wherever the selections stood; (d) and for the aspects of tracks, if their
ranges agree and their last selections agree on what the aspect sees of a system. -/
theorem units_and_ranges_apart (gauge : Gauge ρ) (o : Origin) (ops : List Operation) :
    let f := (o.make gauge).1.run ops
    let m := lastSelected o.system ops
    (f.system = m ∧ f.coefficient = (gauge.conversion m).coefficient ∧
      f.unit = (gauge.conversion m).unit) ∧
    (f.range = ((o.make gauge).1.run (withoutSelections ops)).range ∧
      notifications ((o.make gauge).2 ++ (o.make gauge).1.events ops) =
        notifications ((o.make gauge).1.events (withoutSelections ops))) ∧
    (∀ (o' : Origin) (ops' : List Operation),
      f.range = ((o'.make gauge).1.run ops').range → m = lastSelected o'.system ops' →
        ∀ record, f.judge record = ((o'.make gauge).1.run ops').judge record) ∧
    ∀ (a : Aspect) (o o' : Origin) (ops ops' : List Operation),
      a.ShownAlike (lastSelected o.system ops) (lastSelected o'.system ops') →
        ∀ (r : Range) (record : Track),
          (((o.make a.gauge).1.run ops).withRange r).judge record =
            (((o'.make a.gauge).1.run ops').withRange r).judge record := by
  intro f m
  refine ⟨⟨?_, o.coefficient_run_make ops, ?_⟩, ⟨?_, ?_⟩, ?_, ?_⟩
  · rw [system_run, Origin.system_make]
  · rw [unit_run, Origin.gauge_make, Origin.system_make]
  · exact (run_withoutSelections rfl rfl ops).1
  · rw [notifications_append, Origin.notifications_make, List.nil_append]
    exact (run_withoutSelections rfl rfl ops).2
  · intro o' ops' hrange hm record
    refine judge_congr ?_ hrange ?_ record
    · rw [gauge_run, gauge_run, Origin.gauge_make, Origin.gauge_make]
    · rw [o.coefficient_run_make, o'.coefficient_run_make, ← hm]
  · intro a o o' ops ops' h r record
    apply judge_congr
    · rw [gauge_withRange, gauge_withRange, gauge_run, gauge_run, Origin.gauge_make,
        Origin.gauge_make]
    · rw [range_withRange, range_withRange]
    · rw [coefficient_withRange, coefficient_withRange, o.coefficient_run_make,
        o'.coefficient_run_make]
      exact congrArg Conversion.coefficient h.conversion_eq

/-- A filter of a deployment, edited before and after its system is selected, and a filter from
bounds that are no numbers, which restores the same range before the selection. A third one ends in
another system that shows elevations in feet too. -/
theorem units_and_ranges_apart_uphill :
    let gauge := Aspect.uphill.gauge
    let o : Origin := .ceilings .standard
    let ops : List Operation := [.edit (.enable true), .select .milesAndYards,
      .edit (.moveLower (.ofNat 300))]
    let o' : Origin := .bounds .nan .nan
    let stored : Range := ⟨.zeroOf false, .ofNat 10000, .ofNat 300, .ofNat 10000, true⟩
    let ops' : List Operation := [.edit (.restore stored), .select .kilometersAndMeters,
      .select .milesAndYards]
    let ops'' : List Operation := [.select .nauticalMilesAndFeet, .edit .reset]
    (∀ record, ((o.make gauge).1.run ops).judge record =
      ((o'.make gauge).1.run ops').judge record) ∧
    ∀ (r : Range) (record : Track),
      (((o.make gauge).1.run ops).withRange r).judge record =
        (((o.make gauge).1.run ops'').withRange r).judge record := by
  intro gauge o ops o' stored ops' ops''
  obtain ⟨-, -, hsame, halike⟩ := units_and_ranges_apart gauge o ops
  have hrange : ((o.make gauge).1.run ops).range = ((o'.make gauge).1.run ops').range := by
    decide +kernel
  have hshown : Aspect.uphill.ShownAlike (lastSelected o.system ops)
      (lastSelected o.system ops'') := rfl
  exact ⟨hsame o' ops' hrange rfl, halike .uphill o o ops ops'' hshown⟩

end RangeFilter

end TrackSieve
