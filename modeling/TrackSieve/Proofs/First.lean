import Mathlib.Tactic

/-!
# The first of its kind

What is looked for in a list from the front is found as the first element with a property: the
elements before it do not have the property, and those after it are not looked at.
-/

namespace TrackSieve

/-- An element of a list has a property, and no element in front of it has. -/
def FirstWith {α : Type} (p : α → Prop) (xs : List α) (x : α) : Prop :=
  p x ∧ ∃ before after, xs = before ++ x :: after ∧ ∀ y ∈ before, ¬p y

variable {α : Type} {p : α → Prop} {x y : α} {xs : List α}

theorem find?_eq_some_iff_firstWith [DecidablePred p] :
    xs.find? (fun x => p x) = some x ↔ FirstWith p xs x := by
  simp [List.find?_eq_some_iff_append, FirstWith]

theorem not_firstWith_nil : ¬FirstWith p [] x := by
  rintro ⟨-, before, after, h, -⟩
  exact List.append_ne_nil_of_right_ne_nil before (List.cons_ne_nil x after) h.symm

theorem firstWith_cons_of_pos (hx : p x) : FirstWith p (x :: xs) y ↔ y = x := by
  constructor
  · rintro ⟨-, before, after, h, hbefore⟩
    cases before with
    | nil => exact (List.cons.inj h).1.symm
    | cons z before =>
      obtain ⟨rfl, -⟩ := List.cons.inj h
      exact absurd hx (hbefore x List.mem_cons_self)
  · rintro rfl
    exact ⟨hx, [], xs, rfl, nofun⟩

theorem firstWith_cons_of_neg (hx : ¬p x) : FirstWith p (x :: xs) y ↔ FirstWith p xs y := by
  constructor
  · rintro ⟨hy, before, after, h, hbefore⟩
    cases before with
    | nil =>
      obtain ⟨rfl, -⟩ := List.cons.inj h
      exact absurd hy hx
    | cons z before =>
      obtain ⟨-, rfl⟩ := List.cons.inj h
      exact ⟨hy, before, after, rfl, fun z hz => hbefore z (List.mem_cons_of_mem _ hz)⟩
  · rintro ⟨hy, before, after, rfl, hbefore⟩
    refine ⟨hy, x :: before, after, rfl, ?_⟩
    rintro z (_ | ⟨_, hz⟩)
    · exact hx
    · exact hbefore z hz

/-- The first element with a property is the head of a list, or the first such one behind it. -/
theorem firstWith_cons_iff :
    FirstWith p (x :: xs) y ↔ (p x ∧ y = x) ∨ (¬p x ∧ FirstWith p xs y) := by
  by_cases hx : p x
  · simp [firstWith_cons_of_pos hx, hx]
  · simp [firstWith_cons_of_neg hx, hx]

end TrackSieve
