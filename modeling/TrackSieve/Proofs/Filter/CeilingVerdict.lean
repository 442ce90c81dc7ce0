import TrackSieve.Proofs.Range.Ceiling
import TrackSieve.Proofs.Range.Sliders

/-!
# What a move of the ceiling does to verdicts

If the upper bound was narrowed, a move of the ceiling only takes values away: those from one step
below the new ceiling on. If the upper bound sat on the ceiling and the lower bound stays where it
is, only the old and the new ceiling themselves change sides. If the new ceiling lies below the
lower bound, the selection shrinks to the ceiling, and only what lies beyond it is still accepted.
-/

namespace TrackSieve

open Binary64

namespace Range

variable {r : Range} {x v : Binary64}

/-- With a narrowed upper bound, values from one step below the new ceiling on are lost and none are
gained. -/
theorem accepts_moveCeiling_of_lt (h : r.Ordered) (hx : x.IsFinite) (hf : r.floor < x.nextDown)
    (hlt : r.upper < r.ceiling) :
    (r.edit (.moveCeiling x)).Accepts v ↔ r.Accepts v ∧ v < x.nextDown := by
  have hd := not_isNaN_nextDown hx.not_isNaN
  have hfx : r.floor < x := (le_nextDown_iff hx).1 (Binary64.le_of_lt hf)
  have h' := h.moveCeiling hx hfx
  by_cases hv : v.IsNaN
  · simp [Accepts, lt_def, hv]
  have hfd := hf.2.2
  have huc := hlt.2.2
  have hrank := h.rank_le
  have hlower := h.rank_lower_moveCeiling hx
  have hupper := h.rank_upper_moveCeiling hx hlt
  rw [h'.accepts_iff, h.accepts_iff, h'.passesLower_iff_rank hv, h.passesLower_iff_rank hv,
    h'.passesUpper_iff_rank hv, h.passesUpper_iff_rank hv, lt_iff_rank hv hd,
    floor_edit_moveCeiling, ceiling_edit_moveCeiling]
  rw [rank_nextDown hx] at hfd ⊢
  omega

/-- While the lower bound stays where it is, an upper bound on the ceiling only lets the old and
the new ceiling change sides. -/
theorem accepts_moveCeiling_of_le (h : r.Ordered) (hx : x.IsFinite) (hf : r.floor < x)
    (hu : r.UpperAtCeiling) (hle : r.lower ≤ x) (hvc : ¬v.NumEq r.ceiling)
    (hvx : ¬v.NumEq x) : (r.edit (.moveCeiling x)).Accepts v ↔ r.Accepts v := by
  have h' := h.moveCeiling hx hf
  by_cases hv : v.IsNaN
  · simp [Accepts, lt_def, hv]
  have huc := hu.2.2
  have hlx := hle.2.2
  have hrank := h.rank_le
  have hlower := h.rank_lower_moveCeiling hx
  have hupper := rank_upper_moveCeiling_of_upperAtCeiling (x := x) hu
  rw [numEq_iff_rank hv h.ceiling_isFinite.not_isNaN] at hvc
  rw [numEq_iff_rank hv hx.not_isNaN] at hvx
  rw [h'.accepts_iff, h.accepts_iff, h'.passesLower_iff_rank hv, h.passesLower_iff_rank hv,
    h'.passesUpper_iff_rank hv, h.passesUpper_iff_rank hv, floor_edit_moveCeiling,
    ceiling_edit_moveCeiling]
  omega

/-- A new ceiling below the lower bound leaves only what lies beyond the domain. -/
theorem accepts_moveCeiling_of_gt (h : r.Ordered) (hx : x.IsFinite) (hf : r.floor < x)
    (hu : r.UpperAtCeiling) (hgt : x < r.lower) :
    (r.edit (.moveCeiling x)).Accepts v ↔ x < v := by
  have h' := h.moveCeiling hx hf
  by_cases hv : v.IsNaN
  · simp [Accepts, lt_def, hv]
  have hfx := hf.2.2
  have hxl := hgt.2.2
  have hlower := h.rank_lower_moveCeiling hx
  have hupper := rank_upper_moveCeiling_of_upperAtCeiling (x := x) hu
  rw [h'.accepts_iff, h'.passesLower_iff_rank hv, h'.passesUpper_iff_rank hv,
    lt_iff_rank hx.not_isNaN hv, floor_edit_moveCeiling, ceiling_edit_moveCeiling]
  omega

end Range

namespace RangeFilter

variable {ρ : Type}

/-- **The effect of a new ceiling on verdicts.** Of a filter with bounds in order and a finite
ceiling whose neighbour below lies above the floor, for every value: (a) if the upper bound was
narrowed, what is accepted afterwards is what was accepted before and lies below the neighbour of
the new ceiling, so nothing is let in, and no outlier; (b) if the upper bound sat on the ceiling and
the lower bound is not above the new one, the verdict changes for no number but the two ceilings;
(c) if it sat there and the lower bound is above the new ceiling, exactly the outliers remain. -/
theorem accepts_of_new_ceiling {f : RangeFilter ρ} {x : Binary64} (h : f.range.InOrder)
    (hx : x.IsFinite) (hf : f.range.floor < x.nextDown) (v : Binary64) :
    let f' := (f.apply (.edit (.moveCeiling x))).1
    (f.range.upper < f.range.ceiling →
      (f'.range.Accepts v ↔ f.range.Accepts v ∧ v < x.nextDown) ∧
        (f'.range.Accepts v → f.range.Accepts v ∧ v < f'.range.ceiling)) ∧
    (f.range.UpperAtCeiling → f.range.lower ≤ x → ¬v.NumEq f.range.ceiling → ¬v.NumEq x →
      (f'.range.Accepts v ↔ f.range.Accepts v)) ∧
    (f.range.UpperAtCeiling → x < f.range.lower → (f'.range.Accepts v ↔ x < v)) := by
  intro f'
  have hord := Range.inOrder_iff_ordered.1 h
  have hfx : f.range.floor < x := (le_nextDown_iff hx).1 (Binary64.le_of_lt hf)
  simp only [f', range_apply_edit, Range.ceiling_edit_moveCeiling]
  refine ⟨fun hlt => ?_, Range.accepts_moveCeiling_of_le hord hx hfx,
    Range.accepts_moveCeiling_of_gt hord hx hfx⟩
  have ha := Range.accepts_moveCeiling_of_lt (v := v) hord hx hf hlt
  refine ⟨ha, fun hv => ?_⟩
  obtain ⟨hv, hd⟩ := ha.1 hv
  exact ⟨hv, (le_nextDown_iff hx).1 (Binary64.le_of_lt hd)⟩

/-- A ceiling of 300 comes down to 100: onto a narrowed upper bound, past an open selection from 20
on, and below a lower bound at 200. -/
theorem accepts_of_new_ceiling_hundred :
    let x := ofBits 0x4059000000000000
    let f (lower upper : Binary64) : RangeFilter Track :=
      { ofGauge Aspect.length.gauge with
        range := ⟨zeroOf false, ofBits 0x4072c00000000000, lower, upper, true⟩ }
    let f' (lower upper : Binary64) := ((f lower upper).apply (.edit (.moveCeiling x))).1
    let twenty := ofBits 0x4034000000000000
    let twoHundred := ofBits 0x4069000000000000
    let ceiling := ofBits 0x4072c00000000000
    (∀ v, (f' twenty x).range.Accepts v ↔ (f twenty x).range.Accepts v ∧ v < x.nextDown) ∧
      (∀ v, ¬v.NumEq ceiling → ¬v.NumEq x →
        ((f' twenty ceiling).range.Accepts v ↔ (f twenty ceiling).range.Accepts v)) ∧
      ∀ v, (f' twoHundred ceiling).range.Accepts v ↔ x < v := by
  intro x f f' twenty twoHundred ceiling
  have hx : x.IsFinite := by decide
  refine ⟨fun v => ?_, fun v => ?_, fun v => ?_⟩
  · have h := accepts_of_new_ceiling (f := f twenty x) (by decide) hx (by decide) v
    exact (h.1 (by decide)).1
  · have h := accepts_of_new_ceiling (f := f twenty ceiling) (by decide) hx (by decide) v
    exact h.2.1 (by decide) (by decide)
  · have h := accepts_of_new_ceiling (f := f twoHundred ceiling) (by decide) hx (by decide) v
    exact h.2.2 (by decide) (by decide)

end RangeFilter

end TrackSieve
