import TrackSieve.Filter.Run

/-!
# Edits, factor and system

An edit puts another range in place and touches nothing else. In particular the factor of a filter,
which is stored next to its measurement system, is written only when a system is selected, so it is
always the one of the system in force.
-/

namespace TrackSieve.RangeFilter

variable {ρ : Type} {f : RangeFilter ρ}

/-! ### Another range in place -/

/-- The filter with another range in place. -/
def withRange (f : RangeFilter ρ) (r : Range) : RangeFilter ρ := { f with range := r }

section

variable (f : RangeFilter ρ) (r : Range)

@[simp] theorem range_withRange : (f.withRange r).range = r := rfl

@[simp] theorem gauge_withRange : (f.withRange r).gauge = f.gauge := rfl

@[simp] theorem system_withRange : (f.withRange r).system = f.system := rfl

@[simp] theorem coefficient_withRange : (f.withRange r).coefficient = f.coefficient := rfl

end

theorem apply_edit_eq_withRange (e : Edit) :
    (f.apply (.edit e)).1 = f.withRange (f.range.edit e) := by
  unfold apply Range.edit
  cases h : f.range.edit? e <;> simp [h, withRange]

@[simp] theorem system_apply_edit (e : Edit) : (f.apply (.edit e)).1.system = f.system := by
  rw [apply_edit_eq_withRange, system_withRange]

@[simp] theorem coefficient_apply_edit (e : Edit) :
    (f.apply (.edit e)).1.coefficient = f.coefficient := by
  rw [apply_edit_eq_withRange, coefficient_withRange]

/-! ### The factor in force -/

/-- The factor in force is the one of the measurement system in force. -/
def Calibrated (f : RangeFilter ρ) : Prop :=
  f.coefficient = (f.gauge.conversion f.system).coefficient

theorem calibrated_ofBounds (gauge : Gauge ρ) (floor ceiling : Binary64) :
    (ofBounds gauge floor ceiling).Calibrated := rfl

theorem Calibrated.apply (h : f.Calibrated) (op : Operation) : (f.apply op).1.Calibrated := by
  cases op with
  | edit e =>
    rw [Calibrated, gauge_apply, system_apply_edit, coefficient_apply_edit]
    exact h
  | select m => rfl

theorem Calibrated.run (h : f.Calibrated) (ops : List Operation) : (f.run ops).Calibrated := by
  induction ops generalizing f with
  | nil => exact h
  | cons op ops ih => exact ih (h.apply op)

end TrackSieve.RangeFilter
