import TrackSieve.Proofs.Filter.Notified

/-!
# What a shared listener records

Filters that are used side by side share one record of notifications. As long as no stored range is
restored, the record says exactly which steps changed a range: each of them adds one notification,
for the aspect of the filter that it used, in the order of the steps. Steps that change nothing,
select a measurement system or evaluate records add none, whether or not the records can be judged.
-/

namespace TrackSieve

open Event (notifications)

variable {ρ : Type}

/-- Only with a listener are notifications recorded. -/
theorem Attached.notifications_known (a : Attached ρ) (events : List Event) :
    notifications (a.known events) = if a.recorded then notifications events else [] := by
  rw [known, notifications, List.filterMap_filter]
  cases a.recorded with
  | true => simp [notifications]
  | false =>
    refine List.filterMap_eq_nil_iff.2 fun e _ => ?_
    cases e <;> simp [Event.notified?]

namespace Session

variable {s : Session ρ}

/-- All filters notify the listener that keeps the record. -/
def Recorded (s : Session ρ) : Prop := ∀ a ∈ s.filters, a.recorded = true

instance (s : Session ρ) : Decidable s.Recorded := inferInstanceAs (Decidable (∀ _ ∈ _, _))

/-- What the listener records in the course of steps. -/
def received (s : Session ρ) (steps : List (Nat × Action ρ)) : List Aspect :=
  (s.events steps).flatMap notifications

/-- The aspect of the filter at a position, if a bit of its range is different in another state of
the session. -/
def changedAt (s t : Session ρ) (i : Nat) : Option Aspect :=
  match s.filters[i]?, t.filters[i]? with
  | some a, some b => if b.filter.range = a.filter.range then none else some a.filter.gauge.aspect
  | _, _ => none

/-- For each of the steps in order, the aspect of the filter that it uses, if the session after the
step has another range there than the session before it. -/
def changes (s : Session ρ) (steps : List (Nat × Action ρ)) : List (Option Aspect) :=
  steps.mapIdx fun n step => (s.run (steps.take n)).changedAt (s.run (steps.take (n + 1))) step.1

@[simp] theorem run_nil : s.run [] = s := rfl

@[simp] theorem run_cons (step : Nat × Action ρ) (steps : List (Nat × Action ρ)) :
    s.run (step :: steps) = (s.act step.1 step.2).state.run steps := rfl

theorem changes_cons (step : Nat × Action ρ) (steps : List (Nat × Action ρ)) :
    s.changes (step :: steps) =
      s.changedAt (s.act step.1 step.2).state step.1 ::
        (s.act step.1 step.2).state.changes steps := by
  simp [changes, List.mapIdx_cons]

/-! ### One step -/

/-- A step acts on the filter at its position and records what it makes known. -/
theorem act_of_some {i : Nat} {a : Attached ρ} (h : s.filters[i]? = some a)
    (action : Action ρ) :
    (s.act i action).state.filters[i]? =
        some { a with filter := (a.filter.act action).state } ∧
      (s.act i action).events = a.known (a.filter.act action).events := by
  have hlt : i < s.filters.length := (List.getElem?_eq_some_iff.1 h).1
  rw [Session.act, h]
  exact ⟨List.getElem?_set_self hlt, rfl⟩

theorem Recorded.act (hs : s.Recorded) (i : Nat) (action : Action ρ) :
    (s.act i action).state.Recorded := by
  unfold Session.act
  cases h : s.filters[i]? with
  | none => exact hs
  | some a =>
    intro b hb
    rcases List.mem_or_eq_of_mem_set hb with hb | rfl
    · exact hs b hb
    · exact hs a (List.mem_of_getElem? h)

/-- A direct action on one of the filters adds one notification for its aspect to the record if it
changes its range, and otherwise none. -/
theorem Recorded.notifications_act (hs : s.Recorded) (i : Nat) {action : Action ρ}
    (h : action.Direct) :
    notifications (s.act i action).events =
      (s.changedAt (s.act i action).state i).toList := by
  cases hi : s.filters[i]? with
  | none =>
    rw [Session.act, changedAt, hi]
    rfl
  | some a =>
    have hrec : a.recorded = true := hs a (List.mem_of_getElem? hi)
    obtain ⟨hstate, hevents⟩ := act_of_some hi action
    rw [hevents, a.notifications_known, if_pos hrec, a.filter.notifications_act h, changedAt, hi,
      hstate]
    by_cases hrange : (a.filter.act action).state.range = a.filter.range
    · simp only [if_pos hrange, Option.toList_none]
    · simp only [if_neg hrange, Option.toList_some]

/-! ### Whole sessions -/

/-- **The record lists the changes.** In a session of filters that share a listener, in any state,
with steps of any kind but restoring: at each step the listener is notified exactly once, for the
aspect of the filter that the step uses, if the step changes a bit of the filter's range, and
otherwise not at all; and what it records is these changes, in the order of the steps. -/
theorem received_eq_changes (s : Session ρ) (hs : s.Recorded) (steps : List (Nat × Action ρ))
    (h : ∀ step ∈ steps, step.2.Direct) :
    (s.events steps).map notifications = (s.changes steps).map Option.toList ∧
      s.received steps = (s.changes steps).reduceOption := by
  have hsteps : (s.events steps).map notifications = (s.changes steps).map Option.toList := by
    induction steps generalizing s with
    | nil => rfl
    | cons step steps ih =>
      have hrest := ih _ (hs.act step.1 step.2) fun t ht => h t (List.mem_cons_of_mem _ ht)
      rw [changes_cons, events, List.map_cons, List.map_cons, hrest,
        hs.notifications_act step.1 (h step List.mem_cons_self)]
  refine ⟨hsteps, ?_⟩
  calc s.received steps
      = ((s.events steps).map notifications).flatten := List.flatMap_def ..
    _ = ((s.changes steps).map Option.toList).flatten := by rw [hsteps]
    _ = (s.changes steps).flatMap Option.toList := List.flatMap_def.symm
    _ = (s.changes steps).reduceOption := (List.filterMap_eq_flatMap_toList id _).symm

/-- Two filters, one of them with bounds that are no numbers. Zeros of the other sign and ceilings
that move the selection count as changes; what is set already, a measurement system and a record
that cannot be judged do not. -/
theorem received_eq_changes_zeros :
    let length : RangeFilter Track := .ofBounds Aspect.length.gauge (.zeroOf true) .nan
    let speed : RangeFilter Track := .ofGauge Aspect.maxSpeed.gauge
    let s : Session Track := ⟨[⟨length, true⟩, ⟨speed, true⟩]⟩
    let steps : List (Nat × Action Track) :=
      [(0, .operate (.edit (.enable true))), (0, .judge ⟨"", "", none⟩),
        (0, .operate (.edit (.moveUpper .nan))), (0, .operate (.edit (.moveLower (.zeroOf false)))),
        (1, .operate (.edit .reset)), (1, .operate (.select .milesAndFeet)),
        (1, .operate (.edit (.moveCeiling (.zeroOf true)))), (0, .operate (.edit .reset))]
    s.Recorded ∧ (∀ step ∈ steps, step.2.Direct) ∧
      s.changes steps = [some .length, none, none, some .length, none, none, some .maxSpeed,
        some .length] ∧
      s.received steps = [.length, .length, .maxSpeed, .length] := by
  intro length speed s steps
  have hs : s.Recorded := by decide
  have hsteps : ∀ step ∈ steps, step.2.Direct := by decide
  have hchanges : s.changes steps = [some .length, none, none, some .length, none, none,
      some .maxSpeed, some .length] := by decide +kernel
  refine ⟨hs, hsteps, hchanges, ?_⟩
  rw [(received_eq_changes s hs steps hsteps).2, hchanges]
  rfl

end Session

end TrackSieve
