import TrackSieve.Log.Report
import TrackSieve.Proofs.Log.OwnDirective
import TrackSieve.Proofs.Session.Notified

/-!
# The log of a session

A filter has two ways to make itself known, reports for the log and notifications of its listener.
They go in lockstep. An action that notifies reports first, once, at the level `trace` and for the
same aspect, and no other action has an entry of this level. Selecting a measurement system notifies
nobody and has one entry of level `debug`, with the system, the factor and the unit that are in
force afterwards. Evaluating records makes nothing known. So the entries of level `trace` of a
session are its notifications, in the same order. Settings with the level `trace` let all entries
through.
-/

namespace TrackSieve

open Log (Entry Directive Directives)

/-! ### Entries among events -/

/-- The entries for the log among events, in order. -/
def Event.entries (events : List Event) : List Entry := events.filterMap Event.entry?

open Event (entries notifications)

/-- What the entries of level `trace` say first, which is whom they are about. -/
def Log.tracedAbout (es : List Entry) : List (Option (String × Value)) :=
  (es.filter fun e => e.level = .trace).map fun e => e.fields.head?

open Log (tracedAbout)

/-- What an entry says first if it is about the filter of an aspect. -/
def Aspect.asField (a : Aspect) : String × Log.Value := ("filter", .text a.name)

@[simp] theorem entries_append (events events' : List Event) :
    entries (events ++ events') = entries events ++ entries events' :=
  List.filterMap_append

@[simp] theorem tracedAbout_append (es es' : List Entry) :
    tracedAbout (es ++ es') = tracedAbout es ++ tracedAbout es' := by
  simp [tracedAbout]

/-! ### One action of a filter -/

namespace RangeFilter

variable {ρ : Type} {f g : RangeFilter ρ} {action : Action ρ} {events : List Event}

/-- What an action makes known goes in lockstep, for the filter before and after it. A notification
is for the aspect of the filter, and all that comes with it is one entry in front of it, of level
`trace` and about the same aspect. Without a notification there is no entry of that level. A change
of the range is notified. Selecting a system notifies nobody and has one entry of level `debug`,
with what is in force afterwards. An evaluation makes nothing known. -/
structure InLockstep (f g : RangeFilter ρ) (action : Action ρ) (events : List Event) : Prop where
  traced : ∀ a ∈ notifications events, a = f.gauge.aspect ∧
    ∃ r : Report, events = [.reported r, .notified a] ∧ r.entry.level = .trace ∧
      r.entry.fields.head? = some a.asField
  silent : notifications events = [] → ∀ e ∈ entries events, e.level ≠ .trace
  changed : g.range ≠ f.range → notifications events = [f.gauge.aspect]
  selected : ∀ m, action = .operate (.select m) → g.system = m ∧ notifications events = [] ∧
    ∃ e, entries events = [e] ∧ e.level = .debug ∧ e.fields = [
      f.gauge.aspect.asField,
      ("system", .text g.system.name),
      ("coefficient", .double g.coefficient),
      ("unit", .text g.unit.key)]
  evaluated : (∀ op, action ≠ .operate op) → events = []

/-- Whoever makes nothing known and changes nothing goes in lockstep, unless a system is selected.
-/
theorem InLockstep.nil (h : ∀ m, action ≠ .operate (.select m)) : InLockstep f f action [] where
  traced := nofun
  silent _ := nofun
  changed hne := absurd rfl hne
  selected m hm := absurd hm (h m)
  evaluated _ := rfl

/-- An edit either has nothing to do, or it reports and then notifies. -/
theorem inLockstep_apply_edit (f : RangeFilter ρ) (e : Edit) :
    InLockstep f (f.apply (.edit e)).1 (.operate (.edit e)) (f.apply (.edit e)).2 := by
  cases h : f.range.edit? e with
  | none =>
    rw [f.apply_edit_of_none h]
    exact .nil nofun
  | some r =>
    rw [f.apply_edit_of_some h]
    refine ⟨?_, nofun, fun _ => rfl, nofun, fun hop => absurd rfl (hop _)⟩
    intro a ha
    cases List.mem_singleton.1 ha
    exact ⟨rfl, _, rfl, rfl, rfl⟩

/-- A selection has the entry for what it puts in force. -/
theorem inLockstep_apply_select (f : RangeFilter ρ) (m : MeasurementSystem) :
    InLockstep f (f.apply (.select m)).1 (.operate (.select m)) (f.apply (.select m)).2 where
  traced := nofun
  silent _ := by
    intro e he
    cases List.mem_singleton.1 he
    exact nofun
  changed hne := absurd rfl hne
  selected _ hm := by
    cases hm
    exact ⟨rfl, rfl, _, rfl, rfl, rfl⟩
  evaluated hop := absurd rfl (hop _)

/-- Every action of a filter goes in lockstep. -/
theorem inLockstep_act (f : RangeFilter ρ) (action : Action ρ) :
    InLockstep f (f.act action).state action (f.act action).events := by
  match action with
  | .operate (.edit e) => exact f.inLockstep_apply_edit e
  | .operate (.select m) => exact f.inLockstep_apply_select m
  | .normalize _ | .test _ | .judge _ | .scan _ => exact .nil nofun

/-- In lockstep, the entries of level `trace` are about whom the notifications are for. -/
theorem InLockstep.tracedAbout_entries (h : InLockstep f g action events) :
    tracedAbout (entries events) = (notifications events).map fun a => some a.asField := by
  cases hevents : notifications events with
  | nil =>
    have hnone : (entries events).filter (fun e => e.level = .trace) = [] :=
      List.filter_eq_nil_iff.2 fun e he => by simpa using h.silent hevents e he
    rw [tracedAbout, hnone, List.map_nil, List.map_nil]
  | cons a as =>
    obtain ⟨-, r, rfl, hlevel, habout⟩ := h.traced a (hevents ▸ List.mem_cons_self)
    cases hevents
    simp [tracedAbout, entries, Event.entry?, hlevel, habout]

end RangeFilter

/-! ### What a session records -/

/-- Without a listener a filter reports the same. -/
theorem Attached.entries_known {ρ : Type} (a : Attached ρ) (events : List Event) :
    entries (a.known events) = entries events := by
  rw [known, entries, entries, List.filterMap_filter]
  congr 1
  funext e
  cases e <;> simp [Event.notified?, Event.entry?]

namespace Session

variable {ρ : Type} {s : Session ρ} {steps : List (Nat × Action ρ)} {n i : Nat} {action : Action ρ}

/-- What a step makes known is what its action makes known in the state it finds. -/
theorem getElem?_events (s : Session ρ) (steps : List (Nat × Action ρ)) (n : Nat) :
    (s.events steps)[n]? =
      steps[n]?.map fun step => ((s.run (steps.take n)).act step.1 step.2).events := by
  induction steps generalizing s n with
  | nil => rfl
  | cons step steps ih =>
    cases n with
    | zero => rfl
    | succ n => exact ih _ n

theorem run_take_succ (h : steps[n]? = some (i, action)) :
    s.run (steps.take (n + 1)) = ((s.run (steps.take n)).act i action).state := by
  rw [List.take_add_one, h, run, List.foldl_append]
  rfl

/-- The entries of level `trace` of a step are about whom its notifications are for. -/
theorem Recorded.tracedAbout_act (hs : s.Recorded) (i : Nat) (action : Action ρ) :
    tracedAbout (entries (s.act i action).events) =
      (notifications (s.act i action).events).map fun a => some a.asField := by
  cases hi : s.filters[i]? with
  | none =>
    rw [Session.act, hi]
    rfl
  | some a =>
    have hrec : a.recorded = true := hs a (List.mem_of_getElem? hi)
    rw [(act_of_some hi action).2, a.entries_known, a.notifications_known, if_pos hrec,
      (a.filter.inLockstep_act action).tracedAbout_entries]

/-- The entries of level `trace` of a whole session are about whom the listener is notified for, in
the same order. -/
theorem Recorded.tracedAbout_events (hs : s.Recorded) (steps : List (Nat × Action ρ)) :
    tracedAbout (entries (s.events steps).flatten) =
      (s.received steps).map fun a => some a.asField := by
  induction steps generalizing s with
  | nil => rfl
  | cons step steps ih =>
    have hrest := ih (hs.act step.1 step.2)
    rw [received, events, List.flatten_cons, entries_append, tracedAbout_append, hrest,
      hs.tracedAbout_act, List.flatMap_cons, List.map_append]
    rfl

end Session

/-! ### Settings that let everything through -/

/-- No entry is above the level `trace`. -/
theorem Log.Level.allows_trace (l : Log.Level) : Log.Level.trace.Allows l := by
  cases l <;> decide

/-- The settings with the level `trace` let every entry through. -/
theorem Log.Settings.allow_of_trace {settings : Log.Settings}
    (h : Log.Level.trace.SpelledBy settings.level.toList) (e : Entry) :
    settings.directives.Allow e.target e.fieldNames e.level := by
  rw [allow_directives_of_plain h.listed, Directives.Allow, h.listed.entries_plain]
  refine ⟨.plain .trace, ?_, Level.allows_trace e.level⟩
  exact List.find?_cons_of_pos (decide_eq_true ((Directive.isPlain_plain _).covers _ _))

/-! ### Whole sessions -/

namespace Session

open RangeFilter (InLockstep)

variable {ρ : Type}

/-- **Log and listener go in lockstep.** In a session in any state, with steps of any kind: what a
step records is what its action makes known in the state that the steps before it have led to, all
entries of it and, if the filter has a listener, all notifications; and this goes in lockstep. With
listeners throughout, the entries of level `trace` of the whole session are its notifications, in
the same order. Filters that are started with ceilings go in lockstep too, and with the level
`trace` no entry is held back. -/
theorem log_goes_in_lockstep (s : Session ρ) (steps : List (Nat × Action ρ))
    (settings : Log.Settings) (hlevel : Log.Level.trace.SpelledBy settings.level.toList) :
    (∀ n i action a, steps[n]? = some (i, action) →
      (s.run (steps.take n)).filters[i]? = some a →
      let made := a.filter.act action
      (s.run (steps.take (n + 1))).filters[i]? = some { a with filter := made.state } ∧
        (s.events steps)[n]? = some (a.known made.events) ∧
        entries (a.known made.events) = entries made.events ∧
        notifications (a.known made.events) =
          (if a.recorded then notifications made.events else []) ∧
        InLockstep a.filter made.state action made.events) ∧
    (∀ n i action, steps[n]? = some (i, action) → (s.run (steps.take n)).filters[i]? = none →
      (s.events steps)[n]? = some []) ∧
    (s.Recorded → tracedAbout (entries (s.events steps).flatten) =
      (s.received steps).map fun a => some a.asField) ∧
    (∀ (gauge : Gauge ρ) (c : Ceilings),
      let start := RangeFilter.ofBounds gauge (.zeroOf false) (c.limitOf gauge.aspect)
      let made := RangeFilter.ofCeilings gauge c
      InLockstep start made.1 (.operate (.select c.system)) made.2) ∧
    ∀ e : Entry, settings.directives.Allow e.target e.fieldNames e.level := by
  refine ⟨?_, ?_, fun hs => hs.tracedAbout_events steps, ?_, Log.Settings.allow_of_trace hlevel⟩
  · intro n i action a hstep hfilter
    obtain ⟨hstate, hevents⟩ := act_of_some hfilter action
    refine ⟨?_, ?_, a.entries_known _, a.notifications_known _, a.filter.inLockstep_act action⟩
    · rw [run_take_succ hstep, hstate]
    · rw [getElem?_events, hstep, Option.map_some, hevents]
  · intro n i action hstep hfilter
    rw [getElem?_events, hstep, Option.map_some, Session.act, hfilter]
  · intro gauge c
    exact RangeFilter.inLockstep_apply_select _ c.system

/-- A filter without a listener and one with a listener. Switching the first one on leaves one entry
of level `trace` and no notification; the other one notifies behind its entry. -/
theorem log_goes_in_lockstep_unheard :
    let settings : Log.Settings := { Log.Settings.standard with level := "Trace" }
    let length : RangeFilter Track := .ofGauge Aspect.length.gauge
    let speed : RangeFilter Track := .ofGauge Aspect.maxSpeed.gauge
    let s : Session Track := ⟨[⟨length, false⟩, ⟨speed, true⟩]⟩
    let steps : List (Nat × Action Track) :=
      [(0, .operate (.edit (.enable true))), (1, .operate (.edit (.moveLower .nan))), (2, .scan [])]
    Log.Level.trace.SpelledBy settings.level.toList ∧
      (s.events steps)[0]? = some [.reported (.edited .length (.enable true))] ∧
      (s.events steps)[1]? =
        some [.reported (.edited .maxSpeed (.moveLower .nan)), .notified .maxSpeed] ∧
      (s.events steps)[2]? = some [] ∧
      ∀ event ∈ (s.events steps).flatten, ∀ e ∈ event.entry?,
        settings.directives.Allow e.target e.fieldNames e.level := by
  intro settings length speed s steps
  have hlevel : Log.Level.trace.SpelledBy settings.level.toList := by decide
  obtain ⟨hsteps, hnone, -, -, hallow⟩ := log_goes_in_lockstep s steps settings hlevel
  refine ⟨hlevel, ?_, ?_, hnone 2 2 _ rfl rfl, fun _ _ e _ => hallow e⟩
  · exact (hsteps 0 0 _ _ rfl rfl).2.1
  · exact (hsteps 1 1 _ _ rfl rfl).2.1

end Session

end TrackSieve
