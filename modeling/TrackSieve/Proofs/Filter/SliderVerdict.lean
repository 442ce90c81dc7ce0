import TrackSieve.Proofs.Filter.Calibrated
import TrackSieve.Proofs.Filter.Scan
import TrackSieve.Proofs.Range.Sliders

/-!
# Verdicts of the two sliders

The two sliders of a filter act independently: a record is accepted exactly if it is accepted with
only the lower slider kept and with only the upper one kept. An outlier passes a slider that was not
moved, and a value on a bound of the selection or of the domain passes none.
-/

namespace TrackSieve.RangeFilter

open Binary64

variable {ρ : Type} {f : RangeFilter ρ}

/-- The filter with only its lower slider kept. -/
def onlyLower (f : RangeFilter ρ) : RangeFilter ρ := f.withRange f.range.onlyLower

/-- The filter with only its upper slider kept. -/
def onlyUpper (f : RangeFilter ρ) : RangeFilter ρ := f.withRange f.range.onlyUpper

/-- A value is selected exactly if it is selected with each slider alone. -/
theorem selects_iff_only (h : f.range.Ascending) {raw? : Option Binary64} :
    f.Selects raw? ↔ f.onlyLower.Selects raw? ∧ f.onlyUpper.Selects raw? := by
  rw [selects_iff, selects_iff, selects_iff]
  constructor
  · rintro ⟨raw, hraw, hzero, hv⟩
    obtain ⟨hl, hu⟩ := h.accepts_iff_only.1 hv
    exact ⟨⟨raw, hraw, hzero, hl⟩, ⟨raw, hraw, hzero, hu⟩⟩
  · rintro ⟨⟨raw, hraw, hzero, hl⟩, ⟨raw', hraw', -, hu⟩⟩
    obtain rfl : raw = raw' := Option.some.inj (hraw.symm.trans hraw')
    exact ⟨raw, hraw, hzero, h.accepts_iff_only.2 ⟨hl, hu⟩⟩

/-- **The two sliders act independently.** A filter that is switched on, with bounds in order but
not necessarily finite, judges every record. It accepts the record exactly if the value was
measured, is not zero, and has a display value that is a number and passes both sliders. So its
verdict is the conjunction of the verdicts of the filter with only the lower slider and with only
the upper one, and a display value that equals one of the four bounds is always rejected. -/
theorem judge_eq_sliders (he : f.range.enabled = true) (h : f.range.Ascending) (record : ρ) :
    ∃ verdict, f.judge record = .ok verdict ∧
      (verdict = true ↔ ∃ raw, f.gauge.extract record = some raw ∧ ¬raw.IsZero ∧
        ¬(f.normalize raw).IsNaN ∧ f.range.PassesLower (f.normalize raw) ∧
          f.range.PassesUpper (f.normalize raw)) ∧
      (∃ lower upper, f.onlyLower.judge record = .ok lower ∧
        f.onlyUpper.judge record = .ok upper ∧ verdict = (lower && upper)) ∧
      ∀ raw, f.gauge.extract record = some raw →
        (∃ x ∈ f.range.bounds, (f.normalize raw).NumEq x) → verdict = false := by
  refine ⟨_, judge_of_enabled he h.lower_le_upper, ?_, ?_, ?_⟩
  · rw [decide_eq_true_iff, selects_iff]
    constructor
    · rintro ⟨raw, hraw, hzero, hv⟩
      obtain ⟨hl, hu⟩ := h.accepts_iff.1 hv
      exact ⟨raw, hraw, hzero, hl.not_isNaN, hl, hu⟩
    · rintro ⟨raw, hraw, hzero, -, hl, hu⟩
      exact ⟨raw, hraw, hzero, h.accepts_iff.2 ⟨hl, hu⟩⟩
  · have hlower : f.onlyLower.judge record =
        .ok (decide (f.onlyLower.Selects (f.gauge.extract record))) :=
      judge_of_enabled he h.onlyLower.lower_le_upper
    have hupper : f.onlyUpper.judge record =
        .ok (decide (f.onlyUpper.Selects (f.gauge.extract record))) :=
      judge_of_enabled he h.onlyUpper.lower_le_upper
    refine ⟨_, _, hlower, hupper, ?_⟩
    rw [← Bool.decide_and, decide_eq_decide]
    exact selects_iff_only h
  · rintro raw hraw ⟨x, hx, hvx⟩
    rw [decide_eq_false_iff_not, selects_iff]
    rintro ⟨raw', hraw', -, hv⟩
    obtain rfl : raw = raw' := Option.some.inj (hraw.symm.trans hraw')
    exact h.not_accepts_of_numEq hx hvx hv

/-- On a domain without ends, with the lower slider at its end, a distance of exactly the upper
bound is rejected. -/
theorem judge_eq_sliders_infinite_domain :
    let f : RangeFilter Track := { ofGauge Aspect.length.gauge with
      range := ⟨infinityOf true, infinityOf false, infinityOf true, .ofNat 100, true⟩ }
    let record : Track := ⟨"", "", some (.ofList [(.totalDistance, .ofNat 100000)])⟩
    f.range.enabled = true ∧ f.range.Ascending ∧ f.judge record = .ok false := by
  intro f record
  have h : f.range.Ascending := by decide +kernel
  obtain ⟨verdict, hverdict, -, -, hbound⟩ := judge_eq_sliders (f := f) rfl h record
  have hupper : (f.normalize (.ofNat 100000)).NumEq (.ofNat 100) := by decide +kernel
  refine ⟨rfl, h, ?_⟩
  rw [hverdict, hbound (.ofNat 100000) rfl ⟨.ofNat 100, by simp [f, Range.bounds], hupper⟩]

end TrackSieve.RangeFilter
