import TrackSieve.Filter.Scan
import Mathlib.Tactic

/-!
# Judging and scanning

Whether a record can be judged does not depend on the record: only a filter that is switched on and
whose selection is inverted refuses, and it refuses every record. So a scan either keeps the
accepted records, in order, or fails on its first record, however the list is cut into pieces.
-/

namespace TrackSieve.RangeFilter

variable {ρ : Type} {f : RangeFilter ρ} {record : ρ} {records : List ρ}

/-! ### One record -/

/-- What is selected was measured, is not zero, and has a display value that is selected. -/
theorem selects_iff {raw? : Option Binary64} :
    f.Selects raw? ↔
      ∃ raw, raw? = some raw ∧ ¬raw.IsZero ∧ f.range.Accepts (f.normalize raw) := by
  constructor
  · intro h
    cases raw? with
    | none => exact h.elim
    | some raw => exact ⟨raw, rfl, h⟩
  · rintro ⟨raw, rfl, h⟩
    exact h

theorem judge_of_disabled (h : f.range.enabled = false) : f.judge record = .ok true := by
  simp only [judge, h, Bool.not_false, if_true]

theorem judge_of_enabled (h : f.range.enabled = true) (hle : f.range.lower ≤ f.range.upper) :
    f.judge record = .ok (decide (f.Selects (f.gauge.extract record))) := by
  simp only [judge, h, Bool.not_true, Bool.false_eq_true, if_false, if_pos hle]

theorem judge_of_inverted (h : f.range.enabled = true) (hle : ¬f.range.lower ≤ f.range.upper) :
    f.judge record = .error .invertedSelection := by
  simp only [judge, h, Bool.not_true, Bool.false_eq_true, if_false, if_neg hle]

/-- Records whose values are selected alike are judged alike. -/
theorem judge_eq_of_selects_iff {record' : ρ}
    (h : f.Selects (f.gauge.extract record) ↔ f.Selects (f.gauge.extract record')) :
    f.judge record = f.judge record' := by
  simp only [judge, h]

/-- A filter whose selection is not inverted judges every record. -/
theorem exists_judge_eq_ok (hle : f.range.lower ≤ f.range.upper) (record : ρ) :
    ∃ verdict, f.judge record = .ok verdict := by
  cases h : f.range.enabled
  · exact ⟨_, judge_of_disabled h⟩
  · exact ⟨_, judge_of_enabled h hle⟩

/-! ### Many records -/

/-- A scan of records that can all be judged keeps the accepted ones. -/
theorem accepted_eq_ok_filter (h : ∀ record ∈ records, ∃ verdict, f.judge record = .ok verdict) :
    f.accepted records = .ok (records.filter fun record => f.judge record = .ok true) := by
  induction records with
  | nil => rfl
  | cons record records ih =>
    obtain ⟨verdict, hv⟩ := h record List.mem_cons_self
    have hrest := ih fun r hr => h r (List.mem_cons_of_mem _ hr)
    rw [accepted, hv, hrest]
    cases verdict <;> simp [hv]

/-- Two lists scanned apart give what they give when scanned together. -/
theorem accepted_append (front back : List ρ) :
    f.accepted (front ++ back) =
      match f.accepted front, f.accepted back with
      | .ok xs, .ok ys => .ok (xs ++ ys)
      | .error fault, _ => .error fault
      | _, .error fault => .error fault := by
  induction front with
  | nil =>
    rw [List.nil_append, accepted]
    cases f.accepted back <;> rfl
  | cons record front ih =>
    rw [List.cons_append, accepted, accepted, ih]
    cases f.judge record with
    | error fault => rfl
    | ok keep =>
      cases f.accepted front with
      | error fault => cases f.accepted back <;> rfl
      | ok xs => cases f.accepted back <;> cases keep <;> rfl

/-- A cut list is scanned to the same result as the whole list. -/
theorem acceptedOf_eq_accepted (s : Split ρ) : f.acceptedOf s = f.accepted s.records := by
  induction s with
  | piece records => rfl
  | join front back ihf ihb =>
    rw [acceptedOf, ihf, ihb, Split.records]
    cases hf : f.accepted front.records <;> cases hb : f.accepted back.records <;>
      simp only [accepted_append, hf, hb]

end TrackSieve.RangeFilter
