import TrackSieve.Filter.Scan

/-!
# Sessions

A session is a list of filters that are used side by side. The listeners of its filters keep one
record; a filter without a listener still reports to the log. A step uses one filter: it operates on
it or evaluates records, and its answer and events are given in order.
-/

namespace TrackSieve

/-- A filter in a session, and whether its notifications are recorded. -/
structure Attached (ρ : Type) where
  filter : RangeFilter ρ
  recorded : Bool

/-- Filters that are used side by side, told apart by position. -/
structure Session (ρ : Type) where
  filters : List (Attached ρ)

/-- What a step does with a filter. -/
inductive Action (ρ : Type) where
  | operate (op : Operation)
  | normalize (raw : Binary64)
  | test (v : Binary64)
  | judge (record : ρ)
  | scan (records : List ρ)

/-- What a step answers. -/
inductive Answer where
  | done
  | value (x : Binary64)
  | verdict (accepted : Bool)
  | positions (accepted : List Nat)
  | fault (f : Fault)

namespace Answer

/-- The answer for a verdict that may fail. -/
def ofVerdict : Except Fault Bool → Answer
  | .ok b => verdict b
  | .error f => fault f

/-- The answer for a scan that may fail. -/
def ofPositions : Except Fault (List Nat) → Answer
  | .ok is => positions is
  | .error f => fault f

end Answer

/-- What an action leaves behind: a state, an answer, and what it makes known, in order. -/
structure Outcome (σ : Type) where
  state : σ
  answer : Answer
  events : List Event

/-- An action on a filter. Only an operation changes the filter or makes something known. -/
def RangeFilter.act {ρ : Type} (f : RangeFilter ρ) : Action ρ → Outcome (RangeFilter ρ)
  | .operate op => ⟨(f.apply op).1, .done, (f.apply op).2⟩
  | .normalize raw => ⟨f, .value (f.normalize raw), []⟩
  | .test v => ⟨f, .verdict (decide (f.range.Accepts v)), []⟩
  | .judge record => ⟨f, .ofVerdict (f.judge record), []⟩
  | .scan records => ⟨f, .ofPositions (f.acceptedPositions records), []⟩

/-- The notification that an event is. -/
def Event.notified? : Event → Option Aspect
  | reported _ => none
  | notified a => some a

/-- What a filter makes known in a session: notifications only if they are recorded. -/
def Attached.known {ρ : Type} (a : Attached ρ) (events : List Event) : List Event :=
  events.filter fun e => a.recorded || e.notified?.isNone

namespace Session

variable {ρ : Type}

/-- An action on one of the filters. Without a filter at the position nothing happens. -/
def act (s : Session ρ) (i : Nat) (action : Action ρ) : Outcome (Session ρ) :=
  match s.filters[i]? with
  | none => ⟨s, .done, []⟩
  | some a =>
    let outcome := a.filter.act action
    { outcome with
      state := ⟨s.filters.set i { a with filter := outcome.state }⟩
      events := a.known outcome.events }

/-- The session after actions in order. -/
def run (s : Session ρ) (steps : List (Nat × Action ρ)) : Session ρ :=
  steps.foldl (fun t step => (t.act step.1 step.2).state) s

/-- What each of the actions in order makes known. -/
def events (s : Session ρ) : List (Nat × Action ρ) → List (List Event)
  | [] => []
  | (i, action) :: steps => (s.act i action).events :: (s.act i action).state.events steps

end Session

end TrackSieve
