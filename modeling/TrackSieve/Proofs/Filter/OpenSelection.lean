import TrackSieve.Proofs.Filter.Calibrated
import TrackSieve.Proofs.Filter.Notified
import TrackSieve.Proofs.Filter.Scan
import TrackSieve.Proofs.Range.Sliders

/-!
# Narrowed and open selections

Whether a selection is narrowed is told by comparing its bounds with the ends of the domain, while a
verdict also asks which bounds sit on these ends. The two agree: a selection is narrowed exactly if
it loses some number other than the ends of the domain. So a filter whose selection was reset
rejects only records without a value, with the value zero, and with a display value on an end of the
domain or no number, and resetting it again does nothing.
-/

namespace TrackSieve.RangeFilter

open Binary64

variable {ρ : Type} {f : RangeFilter ρ}

theorem normalize_apply_edit (e : Edit) (raw : Binary64) :
    (f.apply (.edit e)).1.normalize raw = f.normalize raw := by
  rw [normalize, gauge_apply, coefficient_apply_edit, normalize]

theorem apply_reset_of_reset :
    let g := (f.apply (.edit .reset)).1
    g.apply (.edit .reset) = (g, []) := by
  intro g
  apply apply_edit_of_none
  rw [range_apply_edit, Range.edit?_reset_edit_reset]

/-- With both sliders at their ends, what was measured and is not zero is selected unless its
display value is no number or an end of the domain. -/
theorem not_selects_iff_of_not_narrowed (h : f.range.Ascending) (hn : ¬f.range.Narrowed)
    {raw? : Option Binary64} :
    ¬f.Selects raw? ↔
      raw? = none ∨ ∃ raw, raw? = some raw ∧ (raw.IsZero ∨ ¬f.range.OffEnds (f.normalize raw)) := by
  cases raw? with
  | none => simp [Selects]
  | some raw =>
    rw [Selects, h.accepts_iff_offEnds hn, not_and_or, not_not]
    simp

/-- **The flag of a narrowed selection tells the truth.** With bounds in order a selection is
narrowed exactly if some number other than the two ends of the domain is not accepted. After a reset
over a domain whose ends are in order, wherever the bounds of the selection were, it is not
narrowed, and a second reset changes nothing and makes nothing known. A filter that is switched on
then judges every record, and rejects it exactly if there is no value, or the value is zero, or its
display value is no number or equals an end of the domain. -/
theorem narrowed_iff_rejects (f : RangeFilter ρ) :
    (f.range.InOrder →
      (f.range.Narrowed ↔
        ∃ v, ¬v.IsNaN ∧ ¬v.NumEq f.range.floor ∧ ¬v.NumEq f.range.ceiling ∧
          ¬f.range.Accepts v)) ∧
    (f.range.floor ≤ f.range.ceiling →
      let g := (f.apply (.edit .reset)).1
      ¬g.range.Narrowed ∧ g.apply (.edit .reset) = (g, []) ∧
      (f.range.enabled = true → ∀ record, ∃ verdict, g.judge record = .ok verdict ∧
        (verdict = false ↔ f.gauge.extract record = none ∨
          ∃ raw, f.gauge.extract record = some raw ∧
            (raw.IsZero ∨ (f.normalize raw).IsNaN ∨ (f.normalize raw).NumEq f.range.floor ∨
              (f.normalize raw).NumEq f.range.ceiling)))) := by
  constructor
  · intro h
    rw [(Range.inOrder_iff_ordered.1 h).narrowed_iff_exists_offEnds]
    simp only [Range.OffEnds, and_assoc]
  · intro h g
    have hrange : g.range = f.range.edit .reset := range_apply_edit f .reset
    have hasc : g.range.Ascending := hrange ▸ Range.ascending_edit_reset h
    have hopen : ¬g.range.Narrowed := hrange ▸ Range.not_narrowed_edit_reset
    refine ⟨hopen, apply_reset_of_reset, fun he record => ?_⟩
    have hon : g.range.enabled = true := by rw [hrange, Range.edit_reset]; exact he
    refine ⟨_, judge_of_enabled hon hasc.lower_le_upper, ?_⟩
    -- the reset leaves the ends of the domain and the reading of records alone
    rw [decide_eq_false_iff_not, not_selects_iff_of_not_narrowed hasc hopen]
    simp only [g, gauge_apply, normalize_apply_edit, range_apply_edit, Range.edit_reset,
      Range.OffEnds, not_and_or, not_not]

/-- An empty selection on the ceiling is narrowed, so something off the ends is rejected. After a
reset from bounds that are no numbers, the ceiling itself is rejected and what lies above it is
accepted. -/
theorem narrowed_iff_rejects_three_hundred :
    let f (lower upper : Binary64) : RangeFilter Track := { ofGauge Aspect.length.gauge with
      range := ⟨zeroOf true, .ofNat 300, lower, upper, true⟩ }
    let g := ((f nan nan).apply (.edit .reset)).1
    let record (metres : Nat) : Track := ⟨"", "", some (.ofList [(.totalDistance, .ofNat metres)])⟩
    (∃ v, ¬v.IsNaN ∧ ¬v.NumEq (zeroOf true) ∧ ¬v.NumEq (.ofNat 300) ∧
        ¬(f (.ofNat 300) (.ofNat 300)).range.Accepts v) ∧
      ¬g.range.Narrowed ∧ g.apply (.edit .reset) = (g, []) ∧
      g.judge (record 300000) = .ok false ∧ g.judge (record 300001) = .ok true := by
  intro f g record
  have hempty := (narrowed_iff_rejects (f (.ofNat 300) (.ofNat 300))).1 (by decide +kernel)
  obtain ⟨hopen, hagain, hjudge⟩ := (narrowed_iff_rejects (f nan nan)).2 (by decide +kernel)
  refine ⟨hempty.1 (by decide +kernel), hopen, hagain, ?_, ?_⟩
  · obtain ⟨verdict, hverdict, hrejected⟩ := hjudge rfl (record 300000)
    have hceiling : ((f nan nan).normalize (.ofNat 300000)).NumEq (.ofNat 300) := by
      decide +kernel
    rw [hverdict, hrejected.2 (.inr ⟨_, rfl, .inr (.inr (.inr hceiling))⟩)]
  · obtain ⟨verdict, hverdict, hrejected⟩ := hjudge rfl (record 300001)
    rw [hverdict]
    cases verdict with
    | true => rfl
    | false =>
      rcases hrejected.1 rfl with hnone | ⟨raw, hraw, hon⟩
      · cases hnone
      · obtain rfl : .ofNat 300001 = raw := Option.some.inj hraw
        exact absurd hon (by decide +kernel)

end TrackSieve.RangeFilter
