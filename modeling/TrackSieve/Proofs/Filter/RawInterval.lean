import TrackSieve.Proofs.Binary64.Monotone
import TrackSieve.Proofs.Filter.Scan
import TrackSieve.Proofs.Filter.Units
import TrackSieve.Proofs.Range.Sliders

/-!
# Selections in metric units

The factors of all conversions are positive and finite, so display values are in the order of the
metric values they come from. A selection that is narrowed at both ends is therefore an interval in
metric units too, and one that is narrowed at its lower end only reaches upwards without end. Such a
selection has two holes: zero, which counts as not measured, and the ceiling itself.
-/

namespace TrackSieve

open Binary64

/-! ### Conversions -/

namespace Conversion

theorem isFactor_distance (m : MeasurementSystem) : (distance m).coefficient.IsFactor := by
  unfold distance
  cases m.scale <;> decide +kernel

theorem isFactor_speed (m : MeasurementSystem) : (speed m).coefficient.IsFactor := by
  unfold speed
  cases m.scale <;> decide +kernel

theorem isFactor_duration (m : MeasurementSystem) : (duration m).coefficient.IsFactor := by
  show secondsPerMinute.IsFactor
  decide +kernel

theorem isFactor_elevation (m : MeasurementSystem) : (elevation m).coefficient.IsFactor := by
  unfold elevation
  split <;> decide +kernel

end Conversion

/-- Every conversion of every aspect has a positive finite factor. -/
theorem Aspect.isFactor_coefficient (a : Aspect) (m : MeasurementSystem) :
    (a.conversion m).coefficient.IsFactor := by
  unfold conversion
  cases a.ceiling with
  | length => exact Conversion.isFactor_distance m
  | speed => exact Conversion.isFactor_speed m
  | duration => exact Conversion.isFactor_duration m
  | altitude => exact Conversion.isFactor_elevation m
  | elevationChange => exact Conversion.isFactor_elevation m

/-- Applied in either direction, a positive finite factor keeps the order of values. -/
theorem Direction.apply_le_apply (d : Direction) {x y c : Binary64} (hc : c.IsFactor)
    (h : x ≤ y) : d.apply x c ≤ d.apply y c := by
  cases d with
  | multiply => exact hc.mul_le_mul h
  | divide => exact hc.div_le_div h

/-! ### Ranges with a narrowed lower end -/

namespace Range

variable {r : Range} {v : Binary64}

theorem Ascending.accepts_iff_of_narrowed (h : r.Ascending) (hl : r.floor < r.lower)
    (hu : r.upper < r.ceiling) : r.Accepts v ↔ r.lower < v ∧ v < r.upper := by
  have hfloor := hl.2.2
  have hceiling := hu.2.2
  rw [h.accepts_iff, PassesLower, PassesUpper]
  constructor
  · rintro ⟨hlower | ⟨-, hat⟩, hupper | ⟨-, hat'⟩⟩
    · exact ⟨hlower, hupper⟩
    · exact absurd hat'.2.2 (by omega)
    · exact absurd hat.2.2 (by omega)
    · exact absurd hat.2.2 (by omega)
  · rintro ⟨hlower, hupper⟩
    exact ⟨.inl hlower, .inl hupper⟩

theorem Ascending.accepts_iff_of_lower_narrowed (h : r.Ascending) (hl : r.floor < r.lower)
    (hu : r.UpperAtCeiling) : r.Accepts v ↔ r.lower < v ∧ ¬v.NumEq r.ceiling := by
  have hfloor := hl.2.2
  have hceiling := hu.2.2
  by_cases hv : v.IsNaN
  · exact iff_of_false (not_accepts_of_isNaN hv) fun hlower => hlower.1.2.1 hv
  rw [h.accepts_iff, h.passesLower_iff_rank hv, h.passesUpper_iff_rank hv,
    lt_iff_rank hl.2.1 hv, numEq_iff_rank hv hu.2.1]
  omega

end Range

namespace RangeFilter

variable {f : RangeFilter Track} {a : Aspect}

/-- Display values are in the order of the metric values. -/
theorem Calibrated.normalize_le_normalize (h : f.Calibrated) (hgauge : f.gauge = a.gauge)
    {x y : Binary64} (hxy : x ≤ y) : f.normalize x ≤ f.normalize y := by
  have hfactor : f.coefficient.IsFactor := by
    rw [h, hgauge]
    exact a.isFactor_coefficient f.system
  exact f.gauge.direction.apply_le_apply hfactor hxy

/-- A filter that is switched on and in order judges what was measured by its display value. -/
theorem judge_of_extract {ρ : Type} {f : RangeFilter ρ} {record : ρ} {raw : Binary64}
    (he : f.range.enabled = true) (hle : f.range.lower ≤ f.range.upper)
    (hraw : f.gauge.extract record = some raw) :
    f.judge record = .ok (decide (¬raw.IsZero ∧ f.range.Accepts (f.normalize raw))) := by
  rw [judge_of_enabled he hle, hraw]
  rfl

theorem accepts_of_judge {ρ : Type} {f : RangeFilter ρ} {record : ρ} {raw : Binary64}
    (he : f.range.enabled = true) (hle : f.range.lower ≤ f.range.upper)
    (hraw : f.gauge.extract record = some raw) (h : f.judge record = .ok true) :
    f.range.Accepts (f.normalize raw) := by
  rw [judge_of_extract he hle hraw, Except.ok.injEq, decide_eq_true_iff] at h
  exact h.2

/-- Both ends of the selection being narrowed, what lies between accepted values is accepted, except
for zero. -/
theorem Calibrated.judge_of_between (h : f.Calibrated) (hgauge : f.gauge = a.gauge)
    (he : f.range.enabled = true) (hord : f.range.Ordered) (hlower : f.range.floor < f.range.lower)
    (hupper : f.range.upper < f.range.ceiling) {s t u : Track} {x y z : Binary64}
    (hs : f.gauge.extract s = some x) (ht : f.gauge.extract t = some y)
    (hu : f.gauge.extract u = some z) (hxy : x ≤ y) (hyz : y ≤ z) (hsok : f.judge s = .ok true)
    (huok : f.judge u = .ok true) : f.judge t = .ok (decide ¬y.IsZero) := by
  have hx := accepts_of_judge he hord.lower_le_upper hs hsok
  have hz := accepts_of_judge he hord.lower_le_upper hu huok
  rw [hord.ascending.accepts_iff_of_narrowed hlower hupper] at hx hz
  have hy : f.range.Accepts (f.normalize y) := by
    rw [hord.ascending.accepts_iff_of_narrowed hlower hupper]
    constructor
    · exact Binary64.lt_of_lt_of_le hx.1 (h.normalize_le_normalize hgauge hxy)
    · exact Binary64.lt_of_le_of_lt (h.normalize_le_normalize hgauge hyz) hz.2
  rw [judge_of_extract he hord.lower_le_upper ht]
  simp only [hy, and_true]

/-- The lower end alone being narrowed, what lies above an accepted value is accepted, except for
zero and what is shown as the ceiling. -/
theorem Calibrated.judge_of_above (h : f.Calibrated) (hgauge : f.gauge = a.gauge)
    (he : f.range.enabled = true) (hord : f.range.Ordered) (hlower : f.range.floor < f.range.lower)
    (hupper : f.range.UpperAtCeiling) {s t : Track} {x y : Binary64}
    (hs : f.gauge.extract s = some x) (ht : f.gauge.extract t = some y) (hxy : x ≤ y)
    (hsok : f.judge s = .ok true) :
    f.judge t = .ok (decide (¬y.IsZero ∧ ¬(f.normalize y).NumEq f.range.ceiling)) := by
  have hx := accepts_of_judge he hord.lower_le_upper hs hsok
  rw [hord.ascending.accepts_iff_of_lower_narrowed hlower hupper] at hx
  have hy : f.range.lower < f.normalize y :=
    Binary64.lt_of_lt_of_le hx.1 (h.normalize_le_normalize hgauge hxy)
  rw [judge_of_extract he hord.lower_le_upper ht]
  simp only [hord.ascending.accepts_iff_of_lower_narrowed hlower hupper, hy, true_and]

/-- **Selections are intervals in metric units.** In every measurement system the display values of
an aspect are in the order of the metric values. So let a filter of the aspect, whatever its origin
and whatever operations it went through, be switched on, with bounds that pass the check and with
the lower end of the selection narrowed. If the upper end is narrowed too, then with two tracks it
accepts every track whose value lies between theirs, unless that value is zero. If the upper end
sits on the ceiling, then with a track it accepts every track whose value is at least as great,
unless that value is zero or its display value equals the ceiling. -/
theorem judge_between_accepted (a : Aspect) :
    (∀ (m : MeasurementSystem) (x y : Binary64), x ≤ y →
      a.direction.apply x (a.conversion m).coefficient ≤
        a.direction.apply y (a.conversion m).coefficient) ∧
    ∀ (o : Origin) (ops : List Operation),
      let f := (o.make a.gauge).1.run ops
      f.range.enabled = true → f.range.checkBounds a = .ok () → f.range.floor < f.range.lower →
      (f.range.upper < f.range.ceiling → ∀ (s t u : Track) (x y z : Binary64),
        s.value? a.quantity = some x → t.value? a.quantity = some y →
        u.value? a.quantity = some z → x ≤ y → y ≤ z →
        f.judge s = .ok true → f.judge u = .ok true → f.judge t = .ok (decide ¬y.IsZero)) ∧
      (f.range.UpperAtCeiling → ∀ (s t : Track) (x y : Binary64),
        s.value? a.quantity = some x → t.value? a.quantity = some y → x ≤ y →
        f.judge s = .ok true →
        f.judge t = .ok (decide (¬y.IsZero ∧ ¬(f.normalize y).NumEq f.range.ceiling))) := by
  refine ⟨fun m x y => a.direction.apply_le_apply (a.isFactor_coefficient m), ?_⟩
  intro o ops f he hcheck hlower
  have hgauge : f.gauge = a.gauge := by rw [gauge_run, Origin.gauge_make]
  have hcal : f.Calibrated := o.calibrated_make.run ops
  have hord := Range.checkBounds_eq_ok_iff.1 hcheck
  have hextract : ∀ t : Track, f.gauge.extract t = t.value? a.quantity := by
    rw [hgauge]
    exact fun t => rfl
  refine ⟨?_, ?_⟩
  · intro hupper s t u x y z hs ht hu
    rw [← hextract] at hs ht hu
    exact hcal.judge_of_between hgauge he hord hlower hupper hs ht hu
  · intro hupper s t x y hs ht
    rw [← hextract] at hs ht
    exact hcal.judge_of_above hgauge he hord hlower hupper hs ht

/-- Between a place below the sea and one above it lie the sea itself, which counts as not measured,
and the least height there is. Above a place lie the ceiling, which is rejected, and what is higher
than the ceiling. -/
theorem judge_between_accepted_sea :
    let o : Origin := .bounds (.ofDecimal true 400 0) (.ofNat 8848)
    let height (x : Binary64) : Track := ⟨"", "", some (.ofList [(.maxElevation, x)])⟩
    let lower : List Operation := [.edit (.enable true), .edit (.moveLower (.ofDecimal true 300 0))]
    let both : List Operation := lower ++ [.edit (.moveUpper (.ofNat 4000)), .select .milesAndFeet]
    let f := (o.make Aspect.maxAltitude.gauge).1.run both
    let g := (o.make Aspect.maxAltitude.gauge).1.run lower
    f.judge (height (zeroOf true)) = .ok false ∧ f.judge (height (ofBits 1)) = .ok true ∧
      g.judge (height (.ofNat 8848)) = .ok false ∧ g.judge (height (.ofNat 9000)) = .ok true := by
  intro o height lower both f g
  obtain ⟨-, hinterval⟩ := judge_between_accepted .maxAltitude
  let x : Binary64 := .ofDecimal true 50 0
  let z : Binary64 := .ofNat 1000
  have hf : f.range.checkBounds .maxAltitude = .ok () :=
    Range.checkBounds_eq_ok_iff.2 (Range.inOrder_iff_ordered.1 (by decide +kernel))
  have hg : g.range.checkBounds .maxAltitude = .ok () :=
    Range.checkBounds_eq_ok_iff.2 (Range.inOrder_iff_ordered.1 (by decide +kernel))
  have hbetween : ∀ y, x ≤ y → y ≤ z → f.judge (height y) = .ok (decide ¬y.IsZero) := by
    intro y hxy hyz
    refine (hinterval o both (by decide +kernel) hf (by decide +kernel)).1 (by decide +kernel)
      (height x) (height y) (height z) x y z rfl rfl rfl hxy hyz ?_ ?_
    · decide +kernel
    · decide +kernel
  have habove : ∀ y, x ≤ y →
      g.judge (height y) = .ok (decide (¬y.IsZero ∧ ¬(g.normalize y).NumEq g.range.ceiling)) := by
    intro y hxy
    refine (hinterval o lower (by decide +kernel) hg (by decide +kernel)).2 (by decide +kernel)
      (height x) (height y) x y rfl rfl hxy ?_
    decide +kernel
  refine ⟨?_, ?_, ?_, ?_⟩
  · exact (hbetween (zeroOf true) (by decide +kernel) (by decide +kernel)).trans (by decide)
  · exact (hbetween (ofBits 1) (by decide +kernel) (by decide +kernel)).trans (by decide)
  · exact (habove (.ofNat 8848) (by decide +kernel)).trans (by decide +kernel)
  · exact (habove (.ofNat 9000) (by decide +kernel)).trans (by decide +kernel)

end RangeFilter

end TrackSieve
