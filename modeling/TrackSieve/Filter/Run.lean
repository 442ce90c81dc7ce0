import TrackSieve.Filter.Bounds
import TrackSieve.Filter.Basic

/-!
# Runs of operations

Operations one after the other, and what the owner of a filter promises about them: bounds of the
selection are moved within the domain and not past each other, ceilings are finite and above the
floor, and stored ranges are checked before they are restored. Switching, resetting and selecting a
measurement system are always permitted.
-/

namespace TrackSieve

/-- The bounds of a range are finite and in order. -/
def Range.InOrder (r : Range) : Prop := r.boundsFault? = none

instance (r : Range) : Decidable r.InOrder := inferInstanceAs (Decidable (_ = _))

/-- What the owner of a filter promises about an operation on a range. -/
def Operation.Permitted (r : Range) : Operation → Prop
  | .edit (.moveLower x) => r.floor ≤ x ∧ x ≤ r.upper
  | .edit (.moveUpper x) => r.lower ≤ x ∧ x ≤ r.ceiling
  | .edit (.moveCeiling x) => x.IsFinite ∧ r.floor < x
  | .edit (.restore stored) => stored.InOrder
  | .edit (.enable _) | .edit .reset | .select _ => True

namespace RangeFilter

variable {ρ : Type}

/-- The filter after operations in order. -/
def run (f : RangeFilter ρ) (ops : List Operation) : RangeFilter ρ :=
  ops.foldl (fun g op => (g.apply op).1) f

/-- All that operations in order make known. -/
def events (f : RangeFilter ρ) : List Operation → List Event
  | [] => []
  | op :: ops => (f.apply op).2 ++ (f.apply op).1.events ops

/-- Every operation is permitted when its turn comes. -/
def PermittedRun (f : RangeFilter ρ) : List Operation → Prop
  | [] => True
  | op :: ops => op.Permitted f.range ∧ (f.apply op).1.PermittedRun ops

@[simp] theorem run_nil (f : RangeFilter ρ) : f.run [] = f := rfl

@[simp] theorem run_cons (f : RangeFilter ρ) (op : Operation) (ops : List Operation) :
    f.run (op :: ops) = (f.apply op).1.run ops := rfl

/-- An edit changes the range as it would on its own. -/
@[simp] theorem range_apply_edit (f : RangeFilter ρ) (e : Edit) :
    (f.apply (.edit e)).1.range = f.range.edit e := by
  unfold apply Range.edit
  cases h : f.range.edit? e <;> simp [h]

/-- Selecting a system leaves the range as it is. -/
@[simp] theorem range_apply_select (f : RangeFilter ρ) (m : MeasurementSystem) :
    (f.apply (.select m)).1.range = f.range := rfl

/-- No operation changes how records are read. -/
@[simp] theorem gauge_apply (f : RangeFilter ρ) (op : Operation) :
    (f.apply op).1.gauge = f.gauge := by
  cases op with
  | edit e => unfold apply; cases h : f.range.edit? e <;> simp [h]
  | select m => rfl

end RangeFilter

end TrackSieve
