import TrackSieve.Proofs.Binary64.Least
import TrackSieve.Proofs.Range.Same

/-!
# Selections below the ceiling

A ceiling may come down below the floor, and then the bounds are out of order. What is left of their
order is that the selection lies below the ceiling, and this is enough to say bit by bit what a move
of the ceiling does. It is kept by every move, so it carries over to histories of moves. A history
comes to little: the last ceiling, and the least of all ceilings or of the neighbours below them.
-/

namespace TrackSieve.Range

open Binary64

variable {r : Range} {x : Binary64} {xs ys : List Binary64}

/-- The bounds of the selection are in order and not above the ceiling, wherever the floor is. -/
structure Capped (r : Range) : Prop where
  lower_le_upper : r.lower ≤ r.upper
  upper_le_ceiling : r.upper ≤ r.ceiling

theorem Ordered.capped (h : r.Ordered) : r.Capped := ⟨h.lower_le_upper, h.upper_le_ceiling⟩

theorem Capped.upperAtCeiling_or_lt (h : r.Capped) : r.UpperAtCeiling ∨ r.upper < r.ceiling :=
  (lt_or_numEq_of_le h.upper_le_ceiling).symm

/-! ### One move of the ceiling -/

/-- A narrowed upper bound gives way to the neighbour below the new ceiling if that is less. -/
theorem upper_moveCeiling_of_lt (hx : x.IsFinite) (hlt : r.upper < r.ceiling) :
    (r.edit (.moveCeiling x)).upper = if x.nextDown < r.upper then x.nextDown else r.upper := by
  by_cases hux : r.upper < x
  · have hle : ¬x ≤ r.upper := fun hle => not_lt_of_le hle hux
    rw [if_neg (not_lt_of_le ((le_nextDown_iff hx).2 hux)), edit_moveCeiling]
    split
    · rfl
    · rw [upper_withCeiling_of_not_upperAtCeiling (not_upperAtCeiling_of_lt hlt), if_neg hle]
  · have hle : x ≤ r.upper := le_of_not_lt hlt.1 hx.not_isNaN hux
    rw [upper_moveCeiling_of_le hlt hle,
      if_pos (Binary64.lt_of_lt_of_le (nextDown_lt hx) hle)]

/-- The lower bound gives way to the upper one. -/
theorem Capped.lower_moveCeiling (h : r.Capped) :
    (r.edit (.moveCeiling x)).lower =
      if (r.edit (.moveCeiling x)).upper < r.lower then (r.edit (.moveCeiling x)).upper
      else r.lower := by
  rw [edit_moveCeiling]
  split
  · rw [if_neg (not_lt_of_le h.lower_le_upper)]
  · rw [lower_withCeiling]

/-- Under an upper bound on the ceiling the lower bound gives way to the new ceiling. -/
theorem Capped.lower_moveCeiling_of_upperAtCeiling (h : r.Capped) (hu : r.UpperAtCeiling) :
    (r.edit (.moveCeiling x)).lower = if x < r.lower then x else r.lower := by
  rw [edit_moveCeiling]
  split
  · -- the ceiling stays, and the lower bound is below it already
    subst x
    rw [if_neg (not_lt_of_le (Binary64.le_trans h.lower_le_upper h.upper_le_ceiling))]
  · rw [lower_withCeiling, upper_withCeiling_of_upperAtCeiling hu]

/-- A narrowed upper bound stays narrowed. -/
theorem upper_lt_ceiling_moveCeiling (hx : x.IsFinite) (hlt : r.upper < r.ceiling) :
    (r.edit (.moveCeiling x)).upper < (r.edit (.moveCeiling x)).ceiling := by
  rw [ceiling_edit_moveCeiling, upper_moveCeiling_of_lt hx hlt]
  split
  · exact nextDown_lt hx
  · rename_i hdu
    have hd := not_isNaN_nextDown hx.not_isNaN
    exact (le_nextDown_iff hx).1 (le_of_not_lt hd hlt.1 hdu)

/-- **A move of the ceiling keeps the selection below it.** -/
theorem Capped.moveCeiling (h : r.Capped) (hx : x.IsFinite) :
    (r.edit (.moveCeiling x)).Capped := by
  have hl := h.lower_le_upper.1
  have hu := not_isNaN_upper_moveCeiling h.lower_le_upper.2.1 hx.not_isNaN
  constructor
  · rw [h.lower_moveCeiling]
    split
    · exact Binary64.le_refl hu
    · rename_i hlt
      exact le_of_not_lt hu hl hlt
  · rcases h.upperAtCeiling_or_lt with hat | hlt
    · rw [le_iff_rank hu (by rw [ceiling_edit_moveCeiling]; exact hx.not_isNaN),
        rank_upper_moveCeiling_of_upperAtCeiling hat, ceiling_edit_moveCeiling]
    · exact Binary64.le_of_lt (upper_lt_ceiling_moveCeiling hx hlt)

/-! ### Histories of moves -/

/-- The range after moves of the ceiling to the listed numbers, in order. -/
def moveCeilings (r : Range) (xs : List Binary64) : Range :=
  xs.foldl (fun s x => s.edit (.moveCeiling x)) r

@[simp] theorem moveCeilings_nil : r.moveCeilings [] = r := rfl

@[simp] theorem moveCeilings_cons :
    r.moveCeilings (x :: xs) = (r.edit (.moveCeiling x)).moveCeilings xs := rfl

@[simp] theorem floor_moveCeilings : (r.moveCeilings xs).floor = r.floor := by
  induction xs generalizing r with
  | nil => rfl
  | cons x xs ih => rw [moveCeilings_cons, ih, floor_edit_moveCeiling]

@[simp] theorem enabled_moveCeilings : (r.moveCeilings xs).enabled = r.enabled := by
  induction xs generalizing r with
  | nil => rfl
  | cons x xs ih => rw [moveCeilings_cons, ih, enabled_edit_moveCeiling]

theorem ceiling_moveCeilings : (r.moveCeilings xs).ceiling = xs.getLastD r.ceiling := by
  induction xs generalizing r with
  | nil => rfl
  | cons x xs ih => rw [moveCeilings_cons, ih, ceiling_edit_moveCeiling, List.getLastD_cons]

theorem ceiling_moveCeilings_eq_getLast (hne : xs ≠ []) :
    (r.moveCeilings xs).ceiling = xs.getLast hne := by
  rw [ceiling_moveCeilings, List.getLastD_eq_getLast?, List.getLast?_eq_some_getLast hne,
    Option.getD_some]

theorem Capped.moveCeilings (h : r.Capped) (hx : ∀ x ∈ xs, x.IsFinite) :
    (r.moveCeilings xs).Capped := by
  induction xs generalizing r with
  | nil => exact h
  | cons x xs ih =>
    obtain ⟨hx, hxs⟩ := List.forall_mem_cons.1 hx
    exact ih (h.moveCeiling hx) hxs

/-- No bound ever becomes a NaN, though bounds may become infinite. -/
theorem Ordered.not_isNaN_moveCeilings (h : r.Ordered) (hx : ∀ x ∈ xs, x.IsFinite) :
    ∀ y ∈ (r.moveCeilings xs).bounds, ¬y.IsNaN := by
  have hcapped := h.capped.moveCeilings hx
  simp only [bounds, List.forall_mem_cons, floor_moveCeilings]
  exact ⟨h.floor_isFinite.not_isNaN, hcapped.upper_le_ceiling.2.1, hcapped.lower_le_upper.1,
    hcapped.lower_le_upper.2.1, List.forall_mem_nil _⟩

/-- An upper bound on the ceiling follows it all the way. -/
theorem Capped.upperAtCeiling_moveCeilings (h : r.Capped) (hx : ∀ x ∈ xs, x.IsFinite)
    (hu : r.UpperAtCeiling) : (r.moveCeilings xs).UpperAtCeiling := by
  induction xs generalizing r with
  | nil => exact hu
  | cons x xs ih =>
    obtain ⟨hx, hxs⟩ := List.forall_mem_cons.1 hx
    exact ih (h.moveCeiling hx) hxs ((upperAtCeiling_moveCeiling hu.1 hx).2 hu)

/-- Under an upper bound that follows the ceiling, the lower bound ends at the least ceiling if it
was above it. -/
theorem Capped.lower_moveCeilings_of_upperAtCeiling (h : r.Capped) (hx : ∀ x ∈ xs, x.IsFinite)
    (hu : r.UpperAtCeiling) : (r.moveCeilings xs).lower = least r.lower xs := by
  induction xs generalizing r with
  | nil => rfl
  | cons x xs ih =>
    obtain ⟨hx, hxs⟩ := List.forall_mem_cons.1 hx
    have hu' := (upperAtCeiling_moveCeiling hu.1 hx).2 hu
    rw [moveCeilings_cons, ih (h.moveCeiling hx) hxs hu', h.lower_moveCeiling_of_upperAtCeiling hu,
      least_cons]

/-- A narrowed upper bound ends at the least neighbour of the ceilings if it was above it. -/
theorem upper_moveCeilings_of_lt (hx : ∀ x ∈ xs, x.IsFinite) (hlt : r.upper < r.ceiling) :
    (r.moveCeilings xs).upper = least r.upper (xs.map nextDown) := by
  induction xs generalizing r with
  | nil => rfl
  | cons x xs ih =>
    obtain ⟨hx, hxs⟩ := List.forall_mem_cons.1 hx
    have hlt' := upper_lt_ceiling_moveCeiling hx hlt
    rw [moveCeilings_cons, ih hxs hlt', upper_moveCeiling_of_lt hx hlt, List.map_cons, least_cons]

/-- With a narrowed upper bound, the lower bound ends at the final upper bound if it was above it.
-/
theorem Capped.lower_moveCeilings_of_lt (h : r.Capped) (hx : ∀ x ∈ xs, x.IsFinite)
    (hlt : r.upper < r.ceiling) :
    (r.moveCeilings xs).lower = least r.lower [(r.moveCeilings xs).upper] := by
  induction xs generalizing r with
  | nil => rw [moveCeilings_nil, least_cons, if_neg (not_lt_of_le h.lower_le_upper), least_nil]
  | cons x xs ih =>
    obtain ⟨hx, hxs⟩ := List.forall_mem_cons.1 hx
    have hlt' := upper_lt_ceiling_moveCeiling hx hlt
    rw [moveCeilings_cons, ih (h.moveCeiling hx) hxs hlt', h.lower_moveCeiling]
    -- the final upper bound is the present one, or lies below it
    have hfinal := upper_moveCeilings_of_lt hxs hlt'
    generalize (r.edit (.moveCeiling x)).moveCeilings xs = s at hfinal ⊢
    generalize (r.edit (.moveCeiling x)).upper = u at hfinal ⊢
    have hle : s.upper = u ∨ s.upper < u := hfinal ▸ least_eq_or_lt
    by_cases hcut : u < r.lower
    · rw [if_pos hcut]
      rcases hle with heq | hsu
      · rw [heq, least_cons, least_cons, if_pos hcut, ite_self]
      · rw [least_cons, least_cons, if_pos hsu, if_pos (Binary64.lt_trans hsu hcut)]
    · rw [if_neg hcut]

/-! ### Order of the moves, and moves there and back -/

/-- With a narrowed upper bound the order of the ceilings does not matter to the selection. -/
theorem Capped.selection_moveCeilings_perm (h : r.Capped) (hx : ∀ x ∈ xs, x.IsFinite)
    (hlt : r.upper < r.ceiling) (hperm : ys.Perm xs) :
    (r.moveCeilings ys).upper = (r.moveCeilings xs).upper ∧
      (r.moveCeilings ys).lower = (r.moveCeilings xs).lower := by
  have hy : ∀ y ∈ ys, y.IsFinite := fun y hy => hx y (hperm.mem_iff.1 hy)
  have hupper : (r.moveCeilings ys).upper = (r.moveCeilings xs).upper := by
    rw [upper_moveCeilings_of_lt hy hlt, upper_moveCeilings_of_lt hx hlt]
    refine least_perm (hperm.map nextDown) fun a ha b hb hab => ?_
    obtain ⟨c, hc, rfl⟩ := List.mem_map.1 ha
    obtain ⟨d, hd, rfl⟩ := List.mem_map.1 hb
    exact nextDown_eq_of_numEq (hy c hc) (hy d hd) hab
  refine ⟨hupper, ?_⟩
  rw [h.lower_moveCeilings_of_lt hy hlt, h.lower_moveCeilings_of_lt hx hlt, hupper]

/-- Ceilings not below the present one, the last of them on it again, leave a range with a narrowed
upper bound as it was, bit by bit. -/
theorem Capped.moveCeilings_back_of_lt (h : r.Capped) (hx : ∀ x ∈ xs, x.IsFinite)
    (hge : ∀ x ∈ xs, r.ceiling ≤ x) (hback : xs.getLastD r.ceiling = r.ceiling)
    (hlt : r.upper < r.ceiling) : r.moveCeilings xs = r := by
  have hceiling : (r.moveCeilings xs).ceiling = r.ceiling := by rw [ceiling_moveCeilings, hback]
  have hupper : (r.moveCeilings xs).upper = r.upper := by
    rw [upper_moveCeilings_of_lt hx hlt]
    refine least_eq_self (List.forall_mem_map.2 fun x hmem => ?_)
    exact (le_nextDown_iff (hx x hmem)).2 (Binary64.lt_of_lt_of_le hlt (hge x hmem))
  have hlower : (r.moveCeilings xs).lower = r.lower := by
    rw [h.lower_moveCeilings_of_lt hx hlt, hupper]
    exact least_eq_self (List.forall_mem_singleton.2 h.lower_le_upper)
  set s := r.moveCeilings xs with hs
  calc s = ⟨s.floor, s.ceiling, s.lower, s.upper, s.enabled⟩ := rfl
    _ = r := by rw [hceiling, hlower, hupper, hs, floor_moveCeilings, enabled_moveCeilings]

/-- Such ceilings leave every ordered range the same as numbers. An upper bound on the ceiling may
come back with the other sign of zero. -/
theorem Ordered.same_moveCeilings_back (h : r.Ordered) (hx : ∀ x ∈ xs, x.IsFinite)
    (hge : ∀ x ∈ xs, r.ceiling ≤ x) (hback : xs.getLastD r.ceiling = r.ceiling) :
    (r.moveCeilings xs).Same r := by
  rcases h.capped.upperAtCeiling_or_lt with hu | hlt
  · have hlc : r.lower ≤ r.ceiling := Binary64.le_trans h.lower_le_upper h.upper_le_ceiling
    have hceiling : (r.moveCeilings xs).ceiling = r.ceiling := by rw [ceiling_moveCeilings, hback]
    have hlower : (r.moveCeilings xs).lower = r.lower := by
      rw [h.capped.lower_moveCeilings_of_upperAtCeiling hx hu]
      exact least_eq_self fun x hmem => Binary64.le_trans hlc (hge x hmem)
    have hupper : (r.moveCeilings xs).upper.NumEq r.ceiling := by
      have hat := h.capped.upperAtCeiling_moveCeilings hx hu
      rwa [UpperAtCeiling, hceiling] at hat
    refine ⟨?_, ?_, ?_, hupper.trans hu.symm, enabled_moveCeilings⟩
    · rw [floor_moveCeilings]
      exact NumEq.refl h.floor_isFinite.not_isNaN
    · rw [hceiling]
      exact NumEq.refl h.ceiling_isFinite.not_isNaN
    · rw [hlower]
      exact NumEq.refl h.lower_isFinite.not_isNaN
  · rw [h.capped.moveCeilings_back_of_lt hx hge hback hlt]
    exact h.same_refl

end TrackSieve.Range
