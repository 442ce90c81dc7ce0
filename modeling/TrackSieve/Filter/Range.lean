import TrackSieve.Binary64.Basic

/-!
# Ranges

The range of a filter is a domain from a floor to a ceiling, a selection from a lower to an upper
bound, and a switch. A range is edited one step at a time: an edit that has nothing to do yields no
new range. Edits do not clamp, so a range can be out of order; only a change of the ceiling
adjusts the selection.
-/

namespace TrackSieve

/-- The range of a filter, as it is shown and stored: a domain from `floor` to `ceiling`, a
selection from `lower` to `upper`, and whether the filter takes part in filtering. -/
structure Range where
  floor : Binary64
  ceiling : Binary64
  lower : Binary64
  upper : Binary64
  enabled : Bool
deriving DecidableEq

/-- An edit of a range. `reset` opens the selection to the whole domain, and `restore` puts a stored
range in the place of the present one. -/
inductive Edit
  | enable (on : Bool)
  | moveLower (x : Binary64)
  | moveUpper (x : Binary64)
  | reset
  | moveCeiling (x : Binary64)
  | restore (stored : Range)

namespace Range

/-- The range that is switched off and selects the whole domain. -/
def untouched (floor ceiling : Binary64) : Range := ⟨floor, ceiling, floor, ceiling, false⟩

/-- Equal as numbers in all bounds, with the switch in the same position. -/
def Same (r s : Range) : Prop :=
  r.floor.NumEq s.floor ∧ r.ceiling.NumEq s.ceiling ∧ r.lower.NumEq s.lower ∧
    r.upper.NumEq s.upper ∧ r.enabled = s.enabled

instance (r s : Range) : Decidable (r.Same s) := inferInstanceAs (Decidable (_ ∧ _))

/-- The upper bound of the selection sits on the ceiling. -/
def UpperAtCeiling (r : Range) : Prop := r.upper.NumEq r.ceiling

/-- The lower bound of the selection sits on the floor. -/
def LowerAtFloor (r : Range) : Prop := r.lower.NumEq r.floor

/-- A bound of the selection was moved into the domain. -/
def Narrowed (r : Range) : Prop := r.floor < r.lower ∨ r.upper < r.ceiling

/-- A value is selected: it lies strictly between the bounds of the selection, or beyond an end of
the domain on which the selection sits. -/
def Accepts (r : Range) (v : Binary64) : Prop :=
  (r.lower < v ∧ v < r.upper) ∨ (v < r.floor ∧ r.LowerAtFloor) ∨
    (r.ceiling < v ∧ r.UpperAtCeiling)

instance (r : Range) : Decidable r.UpperAtCeiling := inferInstanceAs (Decidable (_ ∧ _))
instance (r : Range) : Decidable r.LowerAtFloor := inferInstanceAs (Decidable (_ ∧ _))
instance (r : Range) : Decidable r.Narrowed := inferInstanceAs (Decidable (_ ∨ _))
instance (r : Range) (v : Binary64) : Decidable (r.Accepts v) :=
  inferInstanceAs (Decidable (_ ∨ _))

/-- The range under another ceiling. An upper bound on the old ceiling follows it to the new one;
another upper bound stays below the new ceiling. The lower bound gives way to the upper one. -/
def withCeiling (r : Range) (x : Binary64) : Range :=
  let upper :=
    if r.UpperAtCeiling then x else if x ≤ r.upper then x.nextDown else r.upper
  let lower := if upper < r.lower then upper else r.lower
  { r with ceiling := x, upper, lower }

/-- The range after an edit, or nothing if the edit changes nothing. Bounds are compared bit by
bit, except that a stored range is compared as numbers. -/
def edit? (r : Range) : Edit → Option Range
  | .enable on => if r.enabled = on then none else some { r with enabled := on }
  | .moveLower x => if r.lower = x then none else some { r with lower := x }
  | .moveUpper x => if r.upper = x then none else some { r with upper := x }
  | .reset =>
    if r.lower = r.floor ∧ r.upper = r.ceiling then none
    else some { r with lower := r.floor, upper := r.ceiling }
  | .moveCeiling x => if r.ceiling = x then none else some (r.withCeiling x)
  | .restore stored => if r.Same stored then none else some stored

/-- The range after an edit. -/
def edit (r : Range) (e : Edit) : Range := (r.edit? e).getD r

end Range

end TrackSieve
