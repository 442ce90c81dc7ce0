import TrackSieve.Proofs.Filter.Scan

/-!
# Scans in any order

The pieces of a cut list may be worked on in any order, a record here and a record there, and what
two neighbouring pieces have kept is joined when both are done. A scan that is under way has a
prospect: what it would give if the rest of every piece were scanned from left to right. No step
changes the prospect, no scan goes on for ever, and one that cannot go on has come to an end. So all
orders end with what a scan of the whole list gives. A record that cannot be judged ends a scan in
every order, because a filter that cannot judge one record can judge none.
-/

namespace TrackSieve

open Relation (ReflTransGen)

variable {ρ : Type}

/-- A scan that is under way: a piece with the records that were kept and those that are still to be
judged, a front part and a back part that are worked on independently, or the fault of a record that
could not be judged. -/
inductive Scan (ρ : Type) where
  | piece (kept rest : List ρ)
  | join (front back : Scan ρ)
  | failed (fault : Fault)

/-- The scan of a cut list before any record is judged. -/
def Split.start : Split ρ → Scan ρ
  | .piece records => .piece [] records
  | .join front back => .join front.start back.start

/-- The outcomes of two parts, joined in order; a part that failed makes the whole fail. -/
def joined (front back : Except Fault (List ρ)) : Except Fault (List ρ) := do
  let xs ← front
  let ys ← back
  return xs ++ ys

namespace Scan

variable {f : RangeFilter ρ} {p q : Scan ρ}

/-- The outcome of a scan that has come to an end. -/
def outcome? : Scan ρ → Option (Except Fault (List ρ))
  | .piece kept [] => some (.ok kept)
  | .failed fault => some (.error fault)
  | _ => none

/-- One step of a scan: one record is judged, in whichever piece, or two parts that are done are
joined, or a fault is passed on. -/
inductive Step (f : RangeFilter ρ) : Scan ρ → Scan ρ → Prop
  | keep {record : ρ} {kept rest : List ρ} (h : f.judge record = .ok true) :
    Step f (.piece kept (record :: rest)) (.piece (kept ++ [record]) rest)
  | drop {record : ρ} {kept rest : List ρ} (h : f.judge record = .ok false) :
    Step f (.piece kept (record :: rest)) (.piece kept rest)
  | fail {record : ρ} {kept rest : List ρ} {fault : Fault} (h : f.judge record = .error fault) :
    Step f (.piece kept (record :: rest)) (.failed fault)
  | front {p p' q : Scan ρ} (h : Step f p p') : Step f (.join p q) (.join p' q)
  | back {p q q' : Scan ρ} (h : Step f q q') : Step f (.join p q) (.join p q')
  | merge {xs ys : List ρ} : Step f (.join (.piece xs []) (.piece ys [])) (.piece (xs ++ ys) [])
  | failFront {q : Scan ρ} {fault : Fault} : Step f (.join (.failed fault) q) (.failed fault)
  | failBack {p : Scan ρ} {fault : Fault} : Step f (.join p (.failed fault)) (.failed fault)

/-! ### Every scan ends -/

/-- The number of records still to be judged and of parts still to be joined. -/
def work : Scan ρ → Nat
  | .piece _ rest => rest.length
  | .join front back => front.work + back.work + 1
  | .failed _ => 0

theorem Step.work_lt (h : Step f p q) : q.work < p.work := by
  induction h with
  | keep h => exact Nat.lt_succ_self _
  | drop h => exact Nat.lt_succ_self _
  | fail h => exact Nat.succ_pos _
  | front h ih => simp only [work]; omega
  | back h ih => simp only [work]; omega
  | merge => exact Nat.succ_pos _
  | failFront => exact Nat.succ_pos _
  | failBack => exact Nat.succ_pos _

/-- No scan goes on for ever. -/
theorem wellFounded_step (f : RangeFilter ρ) : WellFounded fun q p => Step f p q :=
  Subrelation.wf (fun h => h.work_lt) (measure work).wf

/-- A scan that has not come to an end can go on. -/
theorem exists_step (f : RangeFilter ρ) (h : p.outcome? = none) : ∃ q, Step f p q := by
  induction p with
  | piece kept rest =>
    cases rest with
    | nil => cases h
    | cons record rest =>
      cases hj : f.judge record with
      | error fault => exact ⟨_, .fail hj⟩
      | ok verdict => cases verdict with
        | true => exact ⟨_, .keep hj⟩
        | false => exact ⟨_, .drop hj⟩
  | failed fault => cases h
  | join p q ihp ihq =>
    -- a part that is not done can go on, and parts that are done can be joined
    cases hp : p.outcome? with
    | none =>
      obtain ⟨p', hp'⟩ := ihp hp
      exact ⟨_, .front hp'⟩
    | some _ =>
      cases hq : q.outcome? with
      | none =>
        obtain ⟨q', hq'⟩ := ihq hq
        exact ⟨_, .back hq'⟩
      | some _ =>
        match p, q with
        | .failed fault, _ => exact ⟨_, .failFront⟩
        | .piece _ [], .failed fault => exact ⟨_, .failBack⟩
        | .piece _ [], .piece _ [] => exact ⟨_, .merge⟩

/-! ### What a scan comes to -/

/-- What a scan comes to if the rest of every piece is scanned from left to right. -/
def prospect (f : RangeFilter ρ) : Scan ρ → Except Fault (List ρ)
  | .piece kept rest => joined (.ok kept) (f.accepted rest)
  | .join front back => joined (front.prospect f) (back.prospect f)
  | .failed fault => .error fault

theorem joined_ok_nil (kept : List ρ) : joined (.ok kept) (.ok []) = .ok kept := by
  show Except.ok (kept ++ []) = .ok kept
  rw [List.append_nil]

theorem prospect_of_outcome? {r : Except Fault (List ρ)} (h : p.outcome? = some r) :
    p.prospect f = r := by
  match p with
  | .piece kept [] =>
    cases h
    exact joined_ok_nil kept
  | .failed fault =>
    cases h
    rfl

/-- There is one fault only, so it does not matter which part is asked for it. -/
theorem joined_error_right (front : Except Fault (List ρ)) (fault : Fault) :
    joined front (.error fault) = .error fault := by
  cases front with
  | error fault' => cases fault; cases fault'; rfl
  | ok xs => rfl

/-- **No step changes the prospect** of a scan. -/
theorem Step.prospect_eq (h : Step f p q) : q.prospect f = p.prospect f := by
  induction h with
  | keep h =>
    simp only [prospect, RangeFilter.accepted, h]
    cases f.accepted _ with
    | error fault => rfl
    | ok xs => simp [joined, bind, Except.bind, pure, Except.pure]
  | drop h =>
    simp only [prospect, RangeFilter.accepted, h]
    cases f.accepted _ <;> rfl
  | fail h =>
    simp only [prospect, RangeFilter.accepted, h]
    rfl
  | front h ih => simp only [prospect, ih]
  | back h ih => simp only [prospect, ih]
  | merge => simp only [prospect, RangeFilter.accepted, joined_ok_nil]; rfl
  | failFront => rfl
  | failBack => exact (joined_error_right _ _).symm

/-- No run changes the prospect of a scan. -/
theorem prospect_of_run (h : ReflTransGen (Step f) p q) : q.prospect f = p.prospect f := by
  induction h with
  | refl => rfl
  | tail _ hstep ih => rw [hstep.prospect_eq, ih]

/-- Every scan can be brought to an end, and it ends as its prospect says. -/
theorem exists_run (f : RangeFilter ρ) (p : Scan ρ) :
    ∃ q, ReflTransGen (Step f) p q ∧ q.outcome? = some (p.prospect f) := by
  induction p using (wellFounded_step f).induction with
  | _ p ih =>
    cases h : p.outcome? with
    | some r => exact ⟨p, .refl, by rw [h, prospect_of_outcome? h]⟩
    | none =>
      obtain ⟨q, hq⟩ := exists_step f h
      obtain ⟨r, hr, houtcome⟩ := ih q hq
      exact ⟨r, .head hq hr, by rw [houtcome, hq.prospect_eq]⟩

end Scan

namespace RangeFilter

variable {f : RangeFilter ρ}

/-- The prospect of a scan that has not begun is what its pieces give one by one. -/
theorem prospect_start (f : RangeFilter ρ) (s : Split ρ) : s.start.prospect f = f.acceptedOf s := by
  induction s with
  | piece records =>
    show joined (.ok []) (f.accepted records) = f.accepted records
    cases f.accepted records <;> rfl
  | join front back ihf ihb =>
    rw [Split.start, Scan.prospect, ihf, ihb, acceptedOf]
    cases f.acceptedOf front <;> cases f.acceptedOf back <;> rfl

/-- The filter is switched on, its selection is inverted, and there is a record to judge. -/
def FailsOn (f : RangeFilter ρ) (records : List ρ) : Prop :=
  f.range.enabled = true ∧ ¬f.range.lower ≤ f.range.upper ∧ records ≠ []

theorem FailsOn.accepted {records : List ρ} (h : f.FailsOn records) :
    f.accepted records = .error .invertedSelection := by
  obtain ⟨he, hle, hne⟩ := h
  obtain ⟨record, rest, rfl⟩ := List.exists_cons_of_ne_nil hne
  rw [RangeFilter.accepted, judge_of_inverted he hle]

theorem accepted_of_not_failsOn {records : List ρ} (h : ¬f.FailsOn records) :
    f.accepted records = .ok (records.filter fun record => f.judge record = .ok true) := by
  refine accepted_eq_ok_filter fun record hmem => ?_
  by_cases hle : f.range.lower ≤ f.range.upper
  · exact exists_judge_eq_ok hle record
  · have he : f.range.enabled = false := by
      rw [← Bool.not_eq_true]
      exact fun he => h ⟨he, hle, List.ne_nil_of_mem hmem⟩
    exact ⟨true, judge_of_disabled he⟩

/-- The positions are kept with the records, so a scan for them fails on the same lists. -/
theorem failsOn_zipIdx {records : List ρ} :
    (f.through (Prod.fst (β := Nat))).FailsOn records.zipIdx ↔ f.FailsOn records :=
  and_congr_right' (and_congr_right' (not_congr List.zipIdx_eq_nil_iff))

theorem FailsOn.acceptedPositions {records : List ρ} (h : f.FailsOn records) :
    f.acceptedPositions records = .error .invertedSelection := by
  rw [RangeFilter.acceptedPositions, (failsOn_zipIdx.2 h).accepted]
  rfl

theorem acceptedPositions_of_not_failsOn {records : List ρ} (h : ¬f.FailsOn records) :
    f.acceptedPositions records =
      .ok ((records.zipIdx.filter fun r => f.judge r.1 = .ok true).map Prod.snd) := by
  rw [acceptedPositions, accepted_of_not_failsOn (mt failsOn_zipIdx.1 h)]
  rfl

/-- **A scan keeps the accepted records in whatever order its pieces are worked on.** It fails
exactly if the filter is switched on, its selection is inverted or has no number for a bound, and
there is a record, whatever it holds. Else it keeps the accepted records, each occurrence once and
in order. And however the list is cut into pieces, and whichever piece each step works on, the scan
can go on until it comes to an end, cannot go on for ever, and ends with the same outcome. -/
theorem scan_in_any_order (f : RangeFilter ρ) (records : List ρ) :
    (f.accepted records =
      if f.range.enabled = true ∧ ¬f.range.lower ≤ f.range.upper ∧ records ≠ [] then
        .error .invertedSelection
      else .ok (records.filter fun record => f.judge record = .ok true)) ∧
    (f.acceptedPositions records =
      if f.range.enabled = true ∧ ¬f.range.lower ≤ f.range.upper ∧ records ≠ [] then
        .error .invertedSelection
      else .ok ((records.zipIdx.filter fun r => f.judge r.1 = .ok true).map Prod.snd)) ∧
    (∀ s : Split ρ, s.records = records →
      f.acceptedOf s = f.accepted records ∧
      ∀ p, ReflTransGen (Scan.Step f) s.start p →
        (∀ r, p.outcome? = some r → r = f.accepted records) ∧
        (p.outcome? = none → ∃ q, Scan.Step f p q) ∧
        ∃ q, ReflTransGen (Scan.Step f) p q ∧ q.outcome? = some (f.accepted records)) ∧
    WellFounded fun q p => Scan.Step f p q := by
  refine ⟨?_, ?_, ?_, Scan.wellFounded_step f⟩
  · split
    · exact FailsOn.accepted ‹_›
    · exact accepted_of_not_failsOn ‹_›
  · split
    · exact FailsOn.acceptedPositions ‹_›
    · exact acceptedPositions_of_not_failsOn ‹_›
  · rintro s rfl
    refine ⟨acceptedOf_eq_accepted s, fun p hp => ?_⟩
    have hprospect : p.prospect f = f.accepted s.records := by
      rw [Scan.prospect_of_run hp, prospect_start, acceptedOf_eq_accepted]
    refine ⟨?_, Scan.exists_step f, ?_⟩
    · intro r hr
      rw [← Scan.prospect_of_outcome? hr, hprospect]
    · rw [← hprospect]
      exact Scan.exists_run f p

/-- The back piece is worked on first. With the selection in order the copy of a track that it holds
is kept behind the one of the front piece; with a bound that is no number it fails before the front
piece is begun. -/
theorem scan_in_any_order_back_first :
    let f (upper : Binary64) : RangeFilter Track := { ofGauge Aspect.length.gauge with
      range := ⟨.zeroOf false, .ofNat 300, .ofNat 10, upper, true⟩ }
    let a : Track := ⟨"a", "", some (.ofList [(.totalDistance, .ofNat 50000)])⟩
    let b : Track := ⟨"b", "", none⟩
    (∃ q, ReflTransGen (Scan.Step (f (.ofNat 100))) (.join (.piece [] [a, b]) (.piece [a] [])) q ∧
      q.outcome? = some (.ok [a, a])) ∧
    ∃ q, ReflTransGen (Scan.Step (f .nan))
        (.join (.piece [] [a, b]) (.failed .invertedSelection)) q ∧
      q.outcome? = some (.error .invertedSelection) := by
  intro f a b
  let s : Split Track := .join (.piece [a, b]) (.piece [a])
  have ha : (f (.ofNat 100)).judge a = .ok true := by decide +kernel
  have hb : (f (.ofNat 100)).judge b = .ok false := by decide +kernel
  have hfault : (f .nan).judge a = .error .invertedSelection := by decide +kernel
  obtain ⟨haccepted, -, hends, -⟩ := scan_in_any_order (f (.ofNat 100)) [a, b, a]
  obtain ⟨hfails, -, hends', -⟩ := scan_in_any_order (f .nan) [a, b, a]
  obtain ⟨-, -, hrun⟩ := (hends s rfl).2 _ (.single (.back (.keep ha)))
  obtain ⟨-, -, hrun'⟩ := (hends' s rfl).2 _ (.single (.back (.fail hfault)))
  rw [haccepted, if_neg (by decide +kernel)] at hrun
  rw [hfails, if_pos ⟨rfl, by decide +kernel, List.cons_ne_nil _ _⟩] at hrun'
  refine ⟨?_, hrun'⟩
  simpa [Split.start, ha, hb] using hrun

end RangeFilter

end TrackSieve
