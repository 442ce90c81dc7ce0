import TrackSieve.Proofs.Decimal.Reader
import TrackSieve.Proofs.First
import TrackSieve.Proofs.Range.Ordered
import TrackSieve.Proofs.Text.Pieces

/-!
# What the check of the bounds says

The check passes a range exactly if its bounds are finite and every two of them are in order. If a
bound is not finite, it says no more than that. Otherwise it states the first true one of three
objections, in a sentence that names two bounds, puts a number behind each name and says on which
side of the second bound the first one lies. The words of the sentence are found again in the
message, and both numbers read back as the bounds that are named, so that the message alone tells
what is wrong.
-/

namespace TrackSieve

open Binary64

/-- A written number is one word. -/
theorem Layout.words_text (l : Layout) (x : Binary64) : Text.words (l.text x) = [l.text x] := by
  refine Text.words_of_not_mem fun hspace => ?_
  have hblank := l.isBlank_of_mem_text hspace
  revert hblank
  decide

namespace Range

variable {r : Range} {a : Aspect} {e : Refusal} {fault : BoundsFault}

/-! ### Bounds in order -/

/-- Bounds are in order if every two of them are. -/
theorem ordered_iff_pairwise :
    r.Ordered ↔ (∀ x ∈ r.bounds, x.IsFinite) ∧
      [r.floor, r.lower, r.upper, r.ceiling].Pairwise (· ≤ ·) := by
  simp only [List.pairwise_cons, List.forall_mem_cons, List.not_mem_nil, false_imp_iff,
    implies_true, List.Pairwise.nil, and_true]
  constructor
  · intro h
    have hfu := Binary64.le_trans h.floor_le_lower h.lower_le_upper
    exact ⟨h.isFinite_of_mem, ⟨h.floor_le_lower, hfu, Binary64.le_trans hfu h.upper_le_ceiling⟩,
      ⟨h.lower_le_upper, Binary64.le_trans h.lower_le_upper h.upper_le_ceiling⟩,
      h.upper_le_ceiling⟩
  · rintro ⟨hfin, ⟨hfl, -, -⟩, ⟨hlu, -⟩, huc⟩
    simp only [bounds, List.forall_mem_cons] at hfin
    obtain ⟨hf, hc, hl, hu, -⟩ := hfin
    exact ⟨hf, hc, hl, hu, hfl, hlu, huc⟩

/-! ### Objections -/

/-- A bound of a range. -/
inductive Bound
  | floor
  | ceiling
  | lower
  | upper

/-- The name of a bound in messages. -/
def Bound.name : Bound → String
  | floor => "min_value"
  | ceiling => "max_value"
  | lower => "value_from"
  | upper => "value_to"

/-- The value of a bound. -/
def bound (r : Range) : Bound → Binary64
  | .floor => r.floor
  | .ceiling => r.ceiling
  | .lower => r.lower
  | .upper => r.upper

/-- The side of another bound on which a bound lies. -/
inductive Side
  | below
  | above

/-- The wording of a side. -/
def Side.wording : Side → String
  | below => "is below"
  | above => "exceeds"

/-- A number lies on a side of another one. -/
def Side.Holds : Side → Binary64 → Binary64 → Prop
  | below, x, y => x < y
  | above, x, y => y < x

/-- An objection to a range: a bound, its subject, lies on the wrong side of another one, its
object. -/
structure Objection where
  subject : Bound
  side : Side
  object : Bound

namespace Objection

/-- The lower bound lies below the floor. -/
def lowerBelowFloor : Objection := ⟨.lower, .below, .floor⟩

/-- The lower bound lies above the upper one. -/
def lowerAboveUpper : Objection := ⟨.lower, .above, .upper⟩

/-- The upper bound lies above the ceiling. -/
def upperAboveCeiling : Objection := ⟨.upper, .above, .ceiling⟩

/-- The objections, in the order in which they are looked for. -/
def all : List Objection := [lowerBelowFloor, lowerAboveUpper, upperAboveCeiling]

/-- The bounds of a range do lie as the objection says. -/
def TrueOf (r : Range) (o : Objection) : Prop := o.side.Holds (r.bound o.subject) (r.bound o.object)

/-- The sentence that states an objection to a range. -/
def sentence (o : Objection) (r : Range) : String :=
  o.subject.name ++ " " ++ Layout.plain.text (r.bound o.subject) ++ " " ++ o.side.wording ++ " " ++
    o.object.name ++ " " ++ Layout.plain.text (r.bound o.object)

/-- A text states an objection to a range: its words are the name of the one bound and a number,
the wording of the side, and the name of the other bound and a number, and both numbers read back
as the bounds that are named. -/
def StatedIn (o : Objection) (r : Range) (text : String) : Prop :=
  ∃ left right : String,
    Text.words text =
      [o.subject.name, left] ++ Text.words o.side.wording ++ [o.object.name, right] ∧
    ofText? left = some (r.bound o.subject) ∧ ofText? right = some (r.bound o.object)

variable {o : Objection}

/-- Which objection is the first true one. -/
theorem firstWith_all_iff :
    FirstWith (·.TrueOf r) all o ↔
      (r.lower < r.floor ∧ o = lowerBelowFloor) ∨
        (¬r.lower < r.floor ∧ ((r.upper < r.lower ∧ o = lowerAboveUpper) ∨
          (¬r.upper < r.lower ∧ r.ceiling < r.upper ∧ o = upperAboveCeiling))) := by
  simp only [all, firstWith_cons_iff, not_firstWith_nil, and_false, or_false]
  rfl

theorem words_name (b : Bound) : Text.words b.name = [b.name] :=
  Text.words_of_not_mem (by cases b <;> decide)

/-- The faults between two bounds are worded as the sentences of the objections. -/
theorem reason_eq_sentence (r : Range) :
    (BoundsFault.lowerBelowFloor r.lower r.floor).reason = lowerBelowFloor.sentence r ∧
      (BoundsFault.lowerAboveUpper r.lower r.upper).reason = lowerAboveUpper.sentence r ∧
      (BoundsFault.upperAboveCeiling r.upper r.ceiling).reason = upperAboveCeiling.sentence r := by
  simp only [BoundsFault.reason, sentence, String.append_assoc]
  exact ⟨rfl, rfl, rfl⟩

theorem words_sentence (o : Objection) (r : Range) :
    Text.words (o.sentence r) =
      [o.subject.name, Layout.plain.text (r.bound o.subject)] ++ Text.words o.side.wording ++
        [o.object.name, Layout.plain.text (r.bound o.object)] := by
  simp only [sentence, Text.words_append_space, words_name, Layout.words_text, List.append_assoc,
    List.cons_append, List.nil_append]

/-- Bounds that are numbers can be read from the sentence. -/
theorem statedIn_sentence (hs : ¬(r.bound o.subject).IsNaN) (ho : ¬(r.bound o.object).IsNaN) :
    o.StatedIn r (o.sentence r) :=
  ⟨_, _, words_sentence o r, Layout.ofText?_text _ hs, Layout.ofText?_text _ ho⟩

/-- A sentence starts with the name of a bound. -/
theorem sentence_ne (o : Objection) (r : Range) : o.sentence r ≠ "bounds must be finite" := by
  intro h
  -- the first words differ
  have hwords := congrArg (fun s => (Text.words s).head?) h
  simp only [words_sentence, List.cons_append, List.head?_cons] at hwords
  have hname : o.subject.name ≠ "bounds" := by cases o.subject <;> decide
  exact hname (Option.some.inj hwords)

end Objection

/-! ### The check -/

theorem isFinite_bound (h : ∀ x ∈ r.bounds, x.IsFinite) (b : Bound) : (r.bound b).IsFinite := by
  cases b <;> exact h _ (by simp [bounds, bound])

theorem checkBounds_eq_error_iff :
    r.checkBounds a = .error e ↔
      ∃ fault, r.boundsFault? = some fault ∧ e = .invalidBounds a fault.reason := by
  rw [checkBounds]
  cases r.boundsFault? <;> simp [eq_comm]

/-- What is said of finite bounds is the first true objection. -/
theorem exists_objection (hfin : ∀ x ∈ r.bounds, x.IsFinite) (h : r.boundsFault? = some fault) :
    ∃ o, FirstWith (·.TrueOf r) Objection.all o ∧ fault.reason = o.sentence r := by
  unfold boundsFault? at h
  obtain ⟨hbelow, habove, hexceeds⟩ := Objection.reason_eq_sentence r
  simp only [Objection.firstWith_all_iff]
  -- one case for each test of the check, in its order
  split_ifs at h with hnot hfl hlu huc
  · obtain ⟨x, hx, hnot⟩ := hnot
    exact absurd (hfin x hx) hnot
  · cases h
    exact ⟨_, .inl ⟨hfl, rfl⟩, hbelow⟩
  · cases h
    exact ⟨_, .inr ⟨hfl, .inl ⟨hlu, rfl⟩⟩, habove⟩
  · cases h
    exact ⟨_, .inr ⟨hfl, .inr ⟨hlu, huc, rfl⟩⟩, hexceeds⟩

/-- The message of a refusal names the filter and goes on with the reason. -/
theorem words_message (a : Aspect) (reason : String) :
    Text.words (Refusal.invalidBounds a reason).message =
      ["Invalid", "bounds", "for", a.name, "filter:"] ++ Text.words reason := by
  have hname : Text.words a.name = [a.name] :=
    Text.words_of_not_mem (by cases a <;> decide)
  have hfront : Text.words "Invalid bounds for" = ["Invalid", "bounds", "for"] := by decide
  have hcolon : Text.words "filter:" = ["filter:"] := by decide
  have hbehind : " filter: " = " " ++ "filter:" ++ " " := by decide
  have hmessage : (Refusal.invalidBounds a reason).message =
      "Invalid bounds for" ++ " " ++ a.name ++ " " ++ "filter:" ++ " " ++ reason := by
    show "Invalid bounds for" ++ " " ++ a.name ++ " filter: " ++ reason = _
    simp only [hbehind, String.append_assoc]
  simp only [hmessage, Text.words_append_space, hname, hfront, hcolon, List.cons_append,
    List.nil_append]

/-- **The check of the bounds is sound and complete, and its diagnosis is true.** It passes exactly
the ranges with finite bounds of which every two are in order. If it fails, its reason is that
bounds must be finite exactly if a bound is not finite. Otherwise it states the first true one of
the objections, with the numbers that read back as the two bounds it names. The message says for
which filter, and then the reason. -/
theorem checkBounds_diagnosis (r : Range) (a : Aspect) :
    (r.checkBounds a = .ok () ↔
      (∀ x ∈ r.bounds, x.IsFinite) ∧ [r.floor, r.lower, r.upper, r.ceiling].Pairwise (· ≤ ·)) ∧
    ∀ e, r.checkBounds a = .error e → ∃ reason, e = .invalidBounds a reason ∧
      (reason = "bounds must be finite" ↔ ∃ x ∈ r.bounds, ¬x.IsFinite) ∧
      ((∀ x ∈ r.bounds, x.IsFinite) →
        ∃ o, FirstWith (·.TrueOf r) Objection.all o ∧ o.StatedIn r reason) ∧
      Text.words e.message =
        ["Invalid", "bounds", "for", a.name, "filter:"] ++ Text.words reason := by
  refine ⟨checkBounds_eq_ok_iff.trans ordered_iff_pairwise, fun e he => ?_⟩
  obtain ⟨fault, hfault, rfl⟩ := checkBounds_eq_error_iff.1 he
  refine ⟨fault.reason, rfl, ⟨?_, ?_⟩, ?_, words_message a _⟩
  · intro hreason
    by_contra! hfin
    obtain ⟨o, -, hsentence⟩ := exists_objection hfin hfault
    exact o.sentence_ne r (hsentence ▸ hreason)
  · intro hnot
    rw [boundsFault?, if_pos hnot] at hfault
    cases hfault
    rfl
  · intro hfin
    obtain ⟨o, hfirst, hsentence⟩ := exists_objection hfin hfault
    refine ⟨o, hfirst, ?_⟩
    rw [hsentence]
    exact Objection.statedIn_sentence (isFinite_bound hfin _).not_isNaN
      (isFinite_bound hfin _).not_isNaN

/-- The lower bound is the next double above the upper one, and the floor is the negative zero. -/
theorem checkBounds_diagnosis_neighbours :
    let r : Range := ⟨zeroOf true, .ofNat 300, .ofDecimal false 30000000000000004 (-17),
      .ofDecimal false 3 (-1), true⟩
    let reason := "value_from 0.30000000000000004 exceeds value_to 0.3"
    r.upper = r.lower.nextDown ∧
      r.checkBounds .length = .error (.invalidBounds .length reason) ∧
      Objection.lowerAboveUpper.StatedIn r reason := by
  intro r reason
  have hfails : r.checkBounds .length = .error (.invalidBounds .length reason) := by
    decide +kernel
  have hfin : ∀ x ∈ r.bounds, x.IsFinite := by decide +kernel
  have hfl : ¬r.lower < r.floor := by decide +kernel
  have hlu : r.upper < r.lower := by decide +kernel
  obtain ⟨-, hdiagnosis⟩ := checkBounds_diagnosis r .length
  obtain ⟨_, hreason, -, hstated, -⟩ := hdiagnosis _ hfails
  cases hreason
  obtain ⟨o, hfirst, hstated⟩ := hstated hfin
  simp only [Objection.firstWith_all_iff, hfl, hlu, not_true_eq_false, not_false_eq_true,
    false_and, true_and, false_or, or_false] at hfirst
  subst hfirst
  exact ⟨by decide +kernel, hfails, hstated⟩

end Range

end TrackSieve
