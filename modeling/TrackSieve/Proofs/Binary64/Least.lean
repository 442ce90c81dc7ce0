import TrackSieve.Proofs.Binary64.Order
import Mathlib.Data.List.Perm.Basic

/-!
# The least of some doubles

The least of some numbers is found by going through them in order and keeping what is less than all
before it. Of zeros with different signs the first is kept, so the least of some numbers depends on
their order in this one respect, and among neighbours of finite numbers, where no zero is negative,
not even in this.
-/

namespace TrackSieve.Binary64

variable {x y z : Binary64} {ys zs : List Binary64}

/-- The first of the least among a double and some others. -/
def least (x : Binary64) (ys : List Binary64) : Binary64 :=
  ys.foldl (fun a y => if y < a then y else a) x

@[simp] theorem least_nil : least x [] = x := rfl

@[simp] theorem least_cons : least x (y :: ys) = least (if y < x then y else x) ys := rfl

/-- The least of some doubles is the first of them, or lies below it. -/
theorem least_eq_or_lt : least x ys = x ∨ least x ys < x := by
  induction ys generalizing x with
  | nil => exact .inl rfl
  | cons y ys ih =>
    rw [least_cons]
    by_cases hlt : y < x
    · rw [if_pos hlt]
      right
      rcases ih (x := y) with heq | hle
      · rwa [heq]
      · exact Binary64.lt_trans hle hlt
    · rw [if_neg hlt]
      exact ih

/-- Among numbers the least is one of them and no greater than any of them. -/
theorem least_spec (hx : ¬x.IsNaN) (hy : ∀ y ∈ ys, ¬y.IsNaN) :
    least x ys ∈ x :: ys ∧ ∀ y ∈ x :: ys, least x ys ≤ y := by
  induction ys generalizing x with
  | nil =>
    refine ⟨List.mem_cons_self, fun y hmem => ?_⟩
    rw [List.mem_singleton.1 hmem]
    exact Binary64.le_refl hx
  | cons y ys ih =>
    obtain ⟨hy, hys⟩ := List.forall_mem_cons.1 hy
    rw [least_cons]
    by_cases hlt : y < x
    · rw [if_pos hlt]
      obtain ⟨hmem, hle⟩ := ih hy hys
      have hley : least y ys ≤ y := hle y List.mem_cons_self
      refine ⟨List.mem_cons_of_mem _ hmem, List.forall_mem_cons.2 ⟨?_, hle⟩⟩
      exact Binary64.le_trans hley (Binary64.le_of_lt hlt)
    · rw [if_neg hlt]
      obtain ⟨hmem, hle⟩ := ih hx hys
      obtain ⟨hlex, hleys⟩ := List.forall_mem_cons.1 hle
      refine ⟨?_, List.forall_mem_cons.2 ⟨hlex, List.forall_mem_cons.2 ⟨?_, hleys⟩⟩⟩
      · rcases List.mem_cons.1 hmem with heq | hmem
        · rw [heq]
          exact List.mem_cons_self
        · exact List.mem_cons_of_mem _ (List.mem_cons_of_mem _ hmem)
      · exact Binary64.le_trans hlex (le_of_not_lt hy hx hlt)

/-- If nothing lies below the first of some doubles, it is the least. -/
theorem least_eq_self (h : ∀ y ∈ ys, x ≤ y) : least x ys = x := by
  induction ys with
  | nil => rfl
  | cons y ys ih =>
    rw [least_cons, if_neg (not_lt_of_le (h y List.mem_cons_self))]
    exact ih fun z hz => h z (List.mem_cons_of_mem _ hz)

/-- Doubles may be taken in any order if those that are equal as numbers agree bit by bit. -/
theorem least_perm (hperm : ys.Perm zs)
    (heq : ∀ a ∈ ys, ∀ b ∈ ys, a.NumEq b → a = b) : least x ys = least x zs := by
  refine hperm.foldl_eq' (fun a ha b hb z => ?_) x
  by_cases haz : a < z <;> by_cases hbz : b < z
  · -- both lie below, and the smaller of them is kept whichever comes first
    have hna := haz.1
    have hnb := hbz.1
    rw [if_pos haz, if_pos hbz]
    by_cases hab : a < b
    · rw [if_pos hab, if_neg (not_lt_of_le (Binary64.le_of_lt hab))]
    · rw [if_neg hab]
      by_cases hba : b < a
      · rw [if_pos hba]
      · rw [if_neg hba]
        have hle : a ≤ b := le_of_not_lt hnb hna hba
        exact heq a ha b hb ((lt_or_numEq_of_le hle).resolve_left hab)
  · have hba : ¬b < a := fun hba => hbz (Binary64.lt_trans hba haz)
    rw [if_pos haz, if_neg hbz, if_neg hba, if_pos haz]
  · have hab : ¬a < b := fun hab => haz (Binary64.lt_trans hab hbz)
    rw [if_neg haz, if_pos hbz, if_neg hab]
  · rw [if_neg haz, if_neg hbz, if_neg haz]

/-- Neighbours below finite numbers that are equal as numbers agree bit by bit. -/
theorem nextDown_eq_of_numEq (hx : x.IsFinite) (hy : y.IsFinite)
    (h : x.nextDown.NumEq y.nextDown) : x.nextDown = y.nextDown := by
  have hrank := h.2.2
  rw [rank_nextDown hx, rank_nextDown hy] at hrank
  rw [nextDown, nextDown, if_neg hx.not_isNaN, if_neg hy.not_isNaN, hrank]

end TrackSieve.Binary64
