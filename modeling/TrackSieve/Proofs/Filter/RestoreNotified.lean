import TrackSieve.Proofs.Filter.Notified
import TrackSieve.Proofs.Range.Same

/-!
# Restoring and its notifications

The edits that set fields look for a change bit by bit, but restoring compares the stored range with
the present one as numbers. The two tests disagree in both directions. A stored range that differs
in signs of zeros alone is not put in place, and nobody is notified. A range with a NaN is not the
same as itself, so restoring it again notifies the listener of a change that there is not. In all
other cases restoring obeys the rule of the other edits.
-/

namespace TrackSieve.RangeFilter

open Event (notifications)

variable {ρ : Type} {f : RangeFilter ρ} {stored : Range}

/-! ### What restoring does -/

theorem apply_restore_of_same (h : f.range.Same stored) :
    f.apply (.edit (.restore stored)) = (f, []) := by
  apply apply_edit_of_none
  rw [Range.edit?, if_pos h]

theorem notifications_apply_restore :
    notifications (f.apply (.edit (.restore stored))).2 =
      if f.range.Same stored then [] else [f.gauge.aspect] := by
  by_cases h : f.range.Same stored
  · rw [apply_restore_of_same h, if_pos h, notifications_nil]
  · have hedit : f.range.edit? (.restore stored) = some stored := by rw [Range.edit?, if_neg h]
    rw [f.apply_edit_of_some hedit, if_neg h]
    rfl

/-- A second restoring of the same range is silent exactly if none of its bounds is a NaN. -/
theorem notifications_restore_twice :
    notifications ((f.apply (.edit (.restore stored))).1.apply (.edit (.restore stored))).2 = [] ↔
      ∀ x ∈ stored.bounds, ¬x.IsNaN := by
  rw [notifications_apply_restore, range_apply_edit, Range.edit_restore, ← Range.same_self_iff]
  by_cases h : f.range.Same stored
  · rw [if_pos h, if_pos h]
    exact iff_of_true rfl (h.symm.trans h)
  · rw [if_neg h]
    constructor
    · intro hsilent
      by_contra hself
      rw [if_neg hself] at hsilent
      cases hsilent
    · intro hself
      rw [if_pos hself]

/-! ### The rule of the other edits -/

/-- Restoring a range obeys the rule of the other edits: the range is the stored one afterwards, bit
by bit, and the listener is notified once if this changes a bit, and otherwise not. -/
def RestoresByBits (f : RangeFilter ρ) (stored : Range) : Prop :=
  (f.apply (.edit (.restore stored))).1.range = stored ∧
    notifications (f.apply (.edit (.restore stored))).2 =
      if (f.apply (.edit (.restore stored))).1.range = f.range then [] else [f.gauge.aspect]

instance (f : RangeFilter ρ) (stored : Range) : Decidable (f.RestoresByBits stored) :=
  inferInstanceAs (Decidable (_ ∧ _))

/-- Restoring obeys the rule exactly where the comparison as numbers says the same as the one of
bits. -/
theorem restoresByBits_iff_same_iff_eq :
    f.RestoresByBits stored ↔ (f.range.Same stored ↔ f.range = stored) := by
  unfold RestoresByBits
  rw [notifications_apply_restore, range_apply_edit, Range.edit_restore]
  by_cases hsame : f.range.Same stored
  · rw [if_pos hsame, if_pos hsame, if_pos rfl]
    simp [hsame]
  · rw [if_neg hsame, if_neg hsame]
    simp [hsame, eq_comm]

theorem restoresByBits_of_bounds (h : ∀ x ∈ stored.bounds, ¬x.IsNaN ∧ ¬x.IsZero) :
    f.RestoresByBits stored := by
  rw [restoresByBits_iff_same_iff_eq]
  constructor
  · intro hsame
    exact hsame.eq_of_not_isZero fun x hx => (h x hx).2
  · rintro rfl
    exact Range.same_self_iff.2 fun x hx => (h x hx).1

/-- **When restoring obeys the rule of the other edits.** It does so except in two cases: the stored
range is another one but the same as numbers, so that zeros differ in sign, and then nothing is put
in place and nothing made known; or it is the present range and holds a NaN, and then the listener
is notified though nothing changed. Bounds that are neither zeros nor NaNs exclude both. A second
restoring of the same range is silent exactly if no bound of it is a NaN. -/
theorem restore_obeys_rule_iff (f : RangeFilter ρ) (stored : Range) :
    (f.RestoresByBits stored ↔
      ¬(f.range ≠ stored ∧ f.range.Same stored) ∧
        ¬(f.range = stored ∧ ∃ x ∈ stored.bounds, x.IsNaN)) ∧
    (f.range ≠ stored → f.range.Same stored →
      (∃ x ∈ stored.bounds, x.IsZero) ∧ f.apply (.edit (.restore stored)) = (f, [])) ∧
    ((∀ x ∈ stored.bounds, ¬x.IsNaN ∧ ¬x.IsZero) → f.RestoresByBits stored) ∧
    (notifications ((f.apply (.edit (.restore stored))).1.apply (.edit (.restore stored))).2 = [] ↔
      ∀ x ∈ stored.bounds, ¬x.IsNaN) := by
  refine ⟨?_, ?_, restoresByBits_of_bounds, notifications_restore_twice⟩
  · rw [restoresByBits_iff_same_iff_eq]
    by_cases heq : f.range = stored
    · -- the present range fails the comparison with itself for a NaN alone
      rw [heq, Range.same_self_iff]
      simp
    · simp [heq]
  · intro hne hsame
    refine ⟨?_, apply_restore_of_same hsame⟩
    by_contra hzero
    push Not at hzero
    exact hne (hsame.eq_of_not_isZero hzero)

/-- Restoring negative zeros over positive ones leaves the positive ones in place and notifies
nobody, and restoring a NaN twice notifies the listener twice. -/
theorem not_restoresByBits_zeros :
    let f : RangeFilter Track := ofGauge Aspect.length.gauge
    let zeros : Range := .untouched (.zeroOf true) f.range.ceiling
    let unordered : Range := { f.range with lower := .nan }
    let g := (f.apply (.edit (.restore unordered))).1
    (¬f.RestoresByBits zeros ∧ (f.apply (.edit (.restore zeros))).1.range ≠ zeros ∧
      notifications (f.apply (.edit (.restore zeros))).2 = []) ∧
    (¬g.RestoresByBits unordered ∧ (g.apply (.edit (.restore unordered))).1.range = g.range ∧
      notifications (g.apply (.edit (.restore unordered))).2 = [.length]) := by
  decide +kernel

end TrackSieve.RangeFilter
