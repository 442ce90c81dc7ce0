import TrackSieve.Proofs.Range.Ordered
import TrackSieve.Session

/-!
# Who is notified

Every kind of edit has a test of its own for having nothing to do: of one field, of two fields, or
of the ceiling alone, though a new ceiling may move the selection too. For all of them but
restoring, passing the test comes to the same: the range stays as it is, bit by bit. So the listener
is notified exactly once by an edit that changes the range, and not at all by any other.
-/

namespace TrackSieve

/-! ### Notifications among events -/

/-- The notifications among events, in order. -/
def Event.notifications (events : List Event) : List Aspect := events.filterMap Event.notified?

open Event (notifications)

@[simp] theorem notifications_nil : notifications [] = [] := rfl

@[simp] theorem notifications_append (events events' : List Event) :
    notifications (events ++ events') = notifications events ++ notifications events' :=
  List.filterMap_append

/-! ### Edits that set fields -/

/-- An edit that sets fields itself, instead of putting a stored range in place. -/
def Edit.Direct : Edit → Prop
  | .restore _ => False
  | .enable _ | .moveLower _ | .moveUpper _ | .reset | .moveCeiling _ => True

instance : (e : Edit) → Decidable e.Direct
  | .restore _ => isFalse id
  | .enable _ | .moveLower _ | .moveUpper _ | .reset | .moveCeiling _ => isTrue trivial

/-- A direct edit that finds something to do changes a bit of the range. -/
theorem Edit.Direct.ne_of_edit?_eq_some {e : Edit} {r s : Range} (he : e.Direct)
    (h : r.edit? e = some s) : s ≠ r := by
  intro hsr
  subst hsr
  cases e with
  | enable on =>
    simp only [Range.edit?] at h
    split_ifs at h with hne
    exact hne (congrArg Range.enabled (Option.some.inj h)).symm
  | moveLower x =>
    simp only [Range.edit?] at h
    split_ifs at h with hne
    exact hne (congrArg Range.lower (Option.some.inj h)).symm
  | moveUpper x =>
    simp only [Range.edit?] at h
    split_ifs at h with hne
    exact hne (congrArg Range.upper (Option.some.inj h)).symm
  | reset =>
    simp only [Range.edit?] at h
    split_ifs at h with hne
    have heq := Option.some.inj h
    exact hne ⟨(congrArg Range.lower heq).symm, (congrArg Range.upper heq).symm⟩
  | moveCeiling x =>
    -- the ceiling alone is compared, and it is among what changes
    simp only [Range.edit?] at h
    split_ifs at h with hne
    exact hne (congrArg Range.ceiling (Option.some.inj h)).symm
  | restore stored => exact he.elim

namespace RangeFilter

variable {ρ : Type} (f : RangeFilter ρ)

/-! ### Operations and other actions -/

theorem apply_edit_of_none {e : Edit} (h : f.range.edit? e = none) :
    f.apply (.edit e) = (f, []) := by
  rw [apply, h]

theorem apply_edit_of_some {e : Edit} {r : Range} (h : f.range.edit? e = some r) :
    f.apply (.edit e) =
      ({ f with range := r },
        [.reported (.edited f.gauge.aspect e), .notified f.gauge.aspect]) := by
  rw [apply, h]

/-- A direct edit notifies the listener once if it changes the range, and otherwise not. -/
theorem notifications_apply_edit {e : Edit} (he : e.Direct) :
    notifications (f.apply (.edit e)).2 =
      if (f.apply (.edit e)).1.range = f.range then [] else [f.gauge.aspect] := by
  cases h : f.range.edit? e with
  | none => rw [f.apply_edit_of_none h, if_pos rfl, notifications_nil]
  | some r =>
    rw [f.apply_edit_of_some h, if_neg (he.ne_of_edit?_eq_some h)]
    rfl

@[simp] theorem notifications_apply_select (m : MeasurementSystem) :
    notifications (f.apply (.select m)).2 = [] := rfl

end RangeFilter

/-- An action that is no operation, or an operation other than restoring a stored range. -/
def Action.Direct {ρ : Type} : Action ρ → Prop
  | .operate (.edit e) => e.Direct
  | .operate (.select _) | .normalize _ | .test _ | .judge _ | .scan _ => True

instance {ρ : Type} : (action : Action ρ) → Decidable action.Direct
  | .operate (.edit e) => inferInstanceAs (Decidable e.Direct)
  | .operate (.select _) | .normalize _ | .test _ | .judge _ | .scan _ => isTrue trivial

/-- Of the direct actions exactly those notify that change the range, and they notify once. -/
theorem RangeFilter.notifications_act {ρ : Type} (f : RangeFilter ρ) {action : Action ρ}
    (h : action.Direct) :
    notifications (f.act action).events =
      if (f.act action).state.range = f.range then [] else [f.gauge.aspect] := by
  match action with
  | .operate (.edit e) => exact f.notifications_apply_edit h
  | .operate (.select m) => simp [act]
  | .normalize raw | .test v | .judge record | .scan records => simp [act]

end TrackSieve
