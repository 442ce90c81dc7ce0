import TrackSieve.Filter.Run
import TrackSieve.Proofs.Filter.Scan
import TrackSieve.Proofs.Range.Sliders
import TrackSieve.Proofs.Track.Stored

/-!
# Verdicts on stored tracks

Storing a track and reading it back loses the quantities that are not finite. A filter rejects a NaN
as it rejects what is absent, so it notices the loss of an infinite quantity only, and only of its
own: then it rejects what it may have accepted as an outlier before.
-/

namespace TrackSieve

/-! ### Values that are no numbers -/

namespace Binary64

variable {x y : Binary64}

theorem isNaN_nan : nan.IsNaN := by decide

theorem isNaN_mul_of_left (h : x.IsNaN) : (x * y).IsNaN := by
  show (mul x y).IsNaN
  simp only [mul, h, true_or, if_true]
  exact isNaN_nan

theorem isNaN_div_of_left (h : x.IsNaN) : (x / y).IsNaN := by
  show (div x y).IsNaN
  simp only [div, h, true_or, if_true]
  exact isNaN_nan

end Binary64

open Binary64

/-- What is no number in metric units is none in display units. -/
theorem Direction.isNaN_apply {raw : Binary64} (h : raw.IsNaN) (d : Direction)
    (factor : Binary64) : (d.apply raw factor).IsNaN := by
  cases d with
  | multiply => exact isNaN_mul_of_left h
  | divide => exact isNaN_div_of_left h

namespace RangeFilter

variable {ρ : Type} {f : RangeFilter ρ}

theorem not_selects_none : ¬f.Selects none := id

theorem not_selects_of_isNaN {raw : Binary64} (h : raw.IsNaN) : ¬f.Selects (some raw) := by
  rintro ⟨-, hv⟩
  exact Range.not_accepts_of_isNaN (Direction.isNaN_apply h _ _) hv

/-- Only the loss of an infinite value can be noticed. -/
theorem selects_filter_isFinite_iff {raw? : Option Binary64}
    (h : ∀ s, raw? ≠ some (infinityOf s)) :
    f.Selects (raw?.filter fun x => x.IsFinite) ↔ f.Selects raw? := by
  cases raw? with
  | none => exact Iff.rfl
  | some raw =>
    by_cases hfin : raw.IsFinite
    · rw [Option.filter_some, if_pos (decide_eq_true hfin)]
    · have hnan : raw.IsNaN := by
        rcases isNaN_or_eq_infinityOf hfin with hnan | ⟨s, rfl⟩
        · exact hnan
        · exact absurd rfl (h s)
      rw [Option.filter_some, if_neg (by simpa using hfin)]
      exact iff_of_false not_selects_none (not_selects_of_isNaN hnan)

end RangeFilter

namespace Track

open RangeFilter

/-- **Storing a track loses exactly the quantities that are not finite.** Every track is read back
from its text, with the same name and path, with an analysis exactly if it had one, and with every
quantity as it was, bit by bit, if it is finite, and absent if it is not. So a filter of an aspect
of tracks, in whatever state, judges the track that was read back like the stored one, unless the
quantity of the aspect is infinite; and then it rejects it, if it is switched on and can judge at
all. -/
theorem stored_loses_nonfinite (t : Track) :
    ∃ u, load? t.store = some u ∧ u.name = t.name ∧ u.path = t.path ∧
      (u.analysis.isSome ↔ t.analysis.isSome) ∧
      (∀ q, u.value? q = (t.value? q).filter fun x => x.IsFinite) ∧
      ∀ (a : Aspect) (f : RangeFilter Track), f.gauge = a.gauge →
        ((∀ s, t.value? a.quantity ≠ some (infinityOf s)) → f.judge u = f.judge t) ∧
        ((∃ s, t.value? a.quantity = some (infinityOf s)) → f.range.enabled = true →
          (∃ verdict, f.judge u = .ok verdict) → f.judge u = .ok false) := by
  refine ⟨t.finitePart, t.load?_store, rfl, rfl, ?_, t.value?_finitePart, ?_⟩
  · rw [finitePart, Option.isSome_map]
  intro a f hgauge
  have hextract : ∀ v : Track, f.gauge.extract v = v.value? a.quantity := by
    rw [hgauge]
    exact fun v => rfl
  refine ⟨?_, ?_⟩
  · intro hinf
    apply judge_eq_of_selects_iff
    rw [hextract, hextract, t.value?_finitePart]
    exact selects_filter_isFinite_iff hinf
  · rintro ⟨s, hinf⟩ henabled ⟨verdict, hverdict⟩
    -- the infinite quantity is absent from the track that was read back
    have hnone : f.gauge.extract t.finitePart = none := by
      rw [hextract, t.value?_finitePart, hinf, Option.filter_some,
        if_neg (by simpa using not_isFinite_infinityOf s)]
    by_cases hle : f.range.lower ≤ f.range.upper
    · rw [judge_of_enabled henabled hle, hnone]
      rfl
    · rw [judge_of_inverted henabled hle] at hverdict
      cases hverdict

/-- Beyond every ceiling, in a track whose texts need escapes: the infinite distance is accepted
before the track is stored and rejected afterwards, while the speed that is no number is rejected
before and after, and the zero keeps its sign. -/
theorem stored_loses_nonfinite_outlier :
    let t : Track := ⟨"the \"long\" way", "C:\\tracks\t1.gpx", some (.ofList
      [(.totalDistance, infinityOf false), (.maxSpeed, nan), (.avgSpeed, zeroOf true)])⟩
    let f := (ofGauge Aspect.length.gauge).run [.edit (.enable true)]
    let g := (ofGauge Aspect.maxSpeed.gauge).run [.edit (.enable true)]
    f.judge t = .ok true ∧ ∃ u, load? t.store = some u ∧ u.value? .avgSpeed = some (zeroOf true) ∧
      f.judge u = .ok false ∧ g.judge u = g.judge t := by
  intro t f g
  obtain ⟨u, hload, -, -, -, hvalue, hjudge⟩ := stored_loses_nonfinite t
  have hspeed : ∀ s, t.value? .maxSpeed ≠ some (infinityOf s) := by decide
  refine ⟨by decide +kernel, u, hload, hvalue .avgSpeed, ?_, ?_⟩
  · exact (hjudge .length f rfl).2 ⟨false, rfl⟩ rfl (exists_judge_eq_ok (by decide +kernel) u)
  · exact (hjudge .maxSpeed g rfl).1 hspeed

end Track

end TrackSieve
