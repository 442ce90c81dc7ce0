import TrackSieve.Ceilings.Load
import TrackSieve.Proofs.Binary64.Order
import TrackSieve.Proofs.First
import Mathlib.Tactic

/-!
# What an environment loads as

Six variables are read one after the other, and the first that cannot be read refuses the
environment, whatever numbers were read before it. Only if all can be read are the five ceilings
looked at, and the first that is out of range refuses them. Otherwise every setting has the value of
its own variable, or the standard value if that variable is not set.
-/

namespace TrackSieve

open Binary64

/-- A computation that goes on went through its first part. -/
theorem exists_of_bind_eq_ok {ε α β : Type} {x : Except ε α} {f : α → Except ε β} {b : β}
    (h : (x >>= f) = .ok b) : ∃ a, x = .ok a ∧ f a = .ok b := by
  cases x with
  | error e => cases h
  | ok a => exact ⟨a, rfl, h⟩

/-! ### One variable -/

namespace Environment

variable {α : Type} {env : Environment} {name : String} {read? : String → Option α}
  {standard a : α} {e : LoadError}

/-- The value that an environment gives a setting: the standard one if its variable is not set, and
else the one that is read from the text of the variable, blanks around it aside. -/
inductive Gives (env : Environment) (name : String) (read? : String → Option α) (standard : α) :
    α → Prop
  | unset (hset : env.value? name = none) : Gives env name read? standard standard
  | read {bytes : ByteArray} {s : String} {a : α} (hset : env.value? name = some bytes)
    (htext : String.fromUTF8? bytes = some s)
    (hread : read? (String.ofList (Text.trim s.toList)) = some a) : Gives env name read? standard a

/-- How a variable that is set fails to give a setting a value. -/
inductive Refuses (env : Environment) (name : String) (read? : String → Option α) :
    LoadError → Prop
  | notText {bytes : ByteArray} (hset : env.value? name = some bytes)
    (htext : String.fromUTF8? bytes = none) : Refuses env name read? (.notText bytes)
  | unreadable {bytes : ByteArray} {s : String} (hset : env.value? name = some bytes)
    (htext : String.fromUTF8? bytes = some s)
    (hread : read? (String.ofList (Text.trim s.toList)) = none) :
    Refuses env name read? (.unreadable name)

/-- A setting is given a value, or its variable is refused. -/
theorem gives_or_refuses (env : Environment) (name : String) (read? : String → Option α)
    (standard : α) :
    match env.setting name read? standard with
    | .ok a => env.Gives name read? standard a
    | .error e => env.Refuses name read? e := by
  unfold setting
  cases hset : env.value? name with
  | none => exact Gives.unset hset
  | some bytes =>
    cases htext : String.fromUTF8? bytes with
    | none => simpa only [htext] using Refuses.notText hset htext
    | some s =>
      cases hread : read? (String.ofList (Text.trim s.toList)) with
      | none => simpa only [htext, hread] using Refuses.unreadable hset htext hread
      | some a => simpa only [htext, hread] using Gives.read hset htext hread

theorem setting_eq_ok_iff :
    env.setting name read? standard = .ok a ↔ env.Gives name read? standard a := by
  constructor
  · intro h
    have hspec := env.gives_or_refuses name read? standard
    rwa [h] at hspec
  · intro h
    cases h with
    | unset hset => rw [setting, hset]
    | read hset htext hread => simp only [setting, hset, htext, hread]

theorem setting_eq_error_iff :
    env.setting name read? standard = .error e ↔ env.Refuses name read? e := by
  constructor
  · intro h
    have hspec := env.gives_or_refuses name read? standard
    rwa [h] at hspec
  · intro h
    cases h with
    | notText hset htext => simp only [setting, hset, htext]
    | unreadable hset htext hread => simp only [setting, hset, htext, hread]

end Environment

/-! ### All variables -/

/-- A setting of a deployment. -/
inductive Setting
  | limit (k : Ceiling)
  | system

namespace Setting

/-- All settings, in the order in which their variables are read. -/
def all : List Setting := Ceiling.all.map limit ++ [system]

/-- The variable of a setting is set and cannot be read. -/
def Refused (env : Environment) : Setting → LoadError → Prop
  | limit k, e => env.Refuses k.variableName Binary64.ofText? e
  | system, e => env.Refuses Ceilings.systemVariable MeasurementSystem.ofSetting? e

/-- The variable of a setting is refused, for whatever reason. -/
def Unreadable (env : Environment) (s : Setting) : Prop := ∃ e, Refused env s e

/-- The reason for which the first unreadable setting of a list is refused. -/
def FirstRefused (env : Environment) (ss : List Setting) (e : LoadError) : Prop :=
  ∃ s, FirstWith (Unreadable env) ss s ∧ Refused env s e

variable {env : Environment}

theorem not_firstRefused_nil {e : LoadError} : ¬FirstRefused env [] e := by
  rintro ⟨s, hs, -⟩
  exact not_firstWith_nil hs

/-- **One step of reading.** If a setting is read first and other settings after it, the first
refusal among all of them decides. -/
theorem bind_eq_error_iff {α β : Type} {x : Except LoadError α} {f : α → Except LoadError β}
    {s : Setting} {ss : List Setting} (hx : ∀ e, x = .error e ↔ Refused env s e)
    (hf : ∀ a e, f a = .error e ↔ FirstRefused env ss e) (e : LoadError) :
    (x >>= f) = .error e ↔ FirstRefused env (s :: ss) e := by
  cases h : x with
  | error d =>
    -- the setting in front is unreadable, so what follows is never asked
    have hs : Unreadable env s := ⟨d, (hx d).1 h⟩
    have hd : Refused env s e ↔ d = e := by rw [← hx, h, Except.error.injEq]
    have hbind : ((.error d : Except LoadError α) >>= f) = .error d := rfl
    rw [hbind, Except.error.injEq, ← hd]
    constructor
    · intro he
      exact ⟨s, (firstWith_cons_of_pos hs).2 rfl, he⟩
    · rintro ⟨t, ht, he⟩
      obtain rfl := (firstWith_cons_of_pos hs).1 ht
      exact he
  | ok a =>
    have hs : ¬Unreadable env s := by
      rintro ⟨e, he⟩
      rw [(hx e).2 he] at h
      cases h
    have hbind : ((.ok a : Except LoadError α) >>= f) = f a := rfl
    rw [hbind, hf]
    exact exists_congr fun t => and_congr_left' (firstWith_cons_of_neg hs).symm

end Setting

namespace Ceilings

variable {env : Environment} {c : Ceilings} {e : LoadError}

/-- Every setting has the value that an environment gives it. -/
structure GivenBy (c : Ceilings) (env : Environment) : Prop where
  limit (k : Ceiling) : env.Gives k.variableName Binary64.ofText? k.standard (c.limit k)
  system : env.Gives systemVariable MeasurementSystem.ofSetting? default c.system

theorem ofEnvironment_eq_ok_iff : ofEnvironment env = .ok c ↔ c.GivenBy env := by
  have givenBy_iff : c.GivenBy env ↔ (∀ k, env.limit k = .ok (c.limit k)) ∧
      env.setting systemVariable MeasurementSystem.ofSetting? default = .ok c.system := by
    simp only [Environment.limit, Environment.setting_eq_ok_iff]
    exact ⟨fun h => ⟨h.limit, h.system⟩, fun h => ⟨h.1, h.2⟩⟩
  rw [givenBy_iff, ofEnvironment]
  constructor
  · intro h
    obtain ⟨length, hlength, h⟩ := exists_of_bind_eq_ok h
    obtain ⟨speed, hspeed, h⟩ := exists_of_bind_eq_ok h
    obtain ⟨duration, hduration, h⟩ := exists_of_bind_eq_ok h
    obtain ⟨altitude, haltitude, h⟩ := exists_of_bind_eq_ok h
    obtain ⟨elevationChange, helevationChange, h⟩ := exists_of_bind_eq_ok h
    obtain ⟨system, hsystem, h⟩ := exists_of_bind_eq_ok h
    cases h
    refine ⟨?_, hsystem⟩
    rintro (_ | _ | _ | _ | _) <;> assumption
  · rintro ⟨hlimit, hsystem⟩
    simp only [hlimit, hsystem]
    refine congrArg Except.ok (Ceilings.ext ?_ rfl)
    rintro (_ | _ | _ | _ | _) <;> rfl

theorem ofEnvironment_eq_error_iff :
    ofEnvironment env = .error e ↔ Setting.FirstRefused env Setting.all e := by
  -- one step for each of the six variables, and behind the last one nothing is left to refuse
  refine Setting.bind_eq_error_iff (fun _ => Environment.setting_eq_error_iff) ?_ e
  refine fun _ => Setting.bind_eq_error_iff (fun _ => Environment.setting_eq_error_iff) ?_
  refine fun _ => Setting.bind_eq_error_iff (fun _ => Environment.setting_eq_error_iff) ?_
  refine fun _ => Setting.bind_eq_error_iff (fun _ => Environment.setting_eq_error_iff) ?_
  refine fun _ => Setting.bind_eq_error_iff (fun _ => Environment.setting_eq_error_iff) ?_
  refine fun _ => Setting.bind_eq_error_iff (fun _ => Environment.setting_eq_error_iff) ?_
  intro _ e
  exact ⟨nofun, fun h => absurd h Setting.not_firstRefused_nil⟩

/-! ### The check -/

theorem firstInadmissible?_eq_some_iff {k : Ceiling} :
    c.firstInadmissible? = some k ↔
      FirstWith (fun k => ¬Admissible (c.limit k)) Ceiling.all k :=
  find?_eq_some_iff_firstWith

theorem firstInadmissible?_eq_none_iff :
    c.firstInadmissible? = none ↔ ∀ k, Admissible (c.limit k) := by
  simp [firstInadmissible?, Ceiling.mem_all]

theorem check_eq_ok_iff : c.check = .ok () ↔ ∀ k, Admissible (c.limit k) := by
  rw [← firstInadmissible?_eq_none_iff, check]
  cases c.firstInadmissible? <;> simp

theorem check_eq_error_iff :
    c.check = .error e ↔
      ∃ k, FirstWith (fun k => ¬Admissible (c.limit k)) Ceiling.all k ∧ e = .inadmissible k := by
  simp only [← firstInadmissible?_eq_some_iff, check]
  cases c.firstInadmissible? <;> simp [eq_comm]

/-- Out of range for a ceiling: no number at all, infinite, zero or negative. -/
def OutOfRange (x : Binary64) : Prop :=
  x.IsNaN ∨ (∃ negative, x = infinityOf negative) ∨ x.IsZero ∨ x < zeroOf false

theorem not_admissible_iff {x : Binary64} : ¬Admissible x ↔ OutOfRange x := by
  constructor
  · intro h
    by_cases hfin : x.IsFinite
    · have hnot : ¬zeroOf false < x := fun hpos => h ⟨hfin, hpos⟩
      have hzero : ¬(zeroOf false).IsNaN := isNaN_ofCode false 0
      rw [lt_iff_rank hzero hfin.not_isNaN, rank_zeroOf, not_lt] at hnot
      rcases hnot.lt_or_eq with hneg | hz
      · refine .inr (.inr (.inr ?_))
        rwa [lt_iff_rank hfin.not_isNaN hzero, rank_zeroOf]
      · exact .inr (.inr (.inl (rank_eq_zero_iff.1 hz)))
    · rcases isNaN_or_eq_infinityOf hfin with hnan | hinf
      · exact .inl hnan
      · exact .inr (.inl hinf)
  · rintro (hnan | ⟨s, rfl⟩ | hz | hneg) ⟨hfin, hpos⟩
    · exact hfin.not_isNaN hnan
    · exact not_isFinite_infinityOf s hfin
    · have := hpos.2.2
      rw [rank_zeroOf, rank_eq_zero_iff.2 hz] at this
      exact lt_irrefl _ this
    · have := hneg.2.2.trans hpos.2.2
      exact lt_irrefl _ this

theorem load_eq_ok_iff : load env = .ok c ↔ ofEnvironment env = .ok c ∧ c.check = .ok () := by
  unfold load
  constructor
  · intro h
    obtain ⟨d, hd, h⟩ := exists_of_bind_eq_ok h
    obtain ⟨_, hcheck, h⟩ := exists_of_bind_eq_ok h
    cases h
    exact ⟨hd, hcheck⟩
  · rintro ⟨hc, hcheck⟩
    rw [hc]
    show (c.check >>= fun _ => pure c) = .ok c
    rw [hcheck]
    rfl

theorem load_eq_error_iff :
    load env = .error e ↔
      ofEnvironment env = .error e ∨ ∃ c, ofEnvironment env = .ok c ∧ c.check = .error e := by
  unfold load
  cases hc : ofEnvironment env with
  | error d => simp [bind, Except.bind]
  | ok c =>
    cases hcheck : c.check <;> simp [bind, Except.bind, pure, Except.pure, hcheck]

/-- **Loading is exact, for every environment.** It succeeds exactly if every variable is not set or
is set to a text that can be read, and all ceilings are finite and positive; then every setting has
the value of its own variable, or the standard one. It fails for the reason of the first variable
that is not a text or cannot be read, in the order of the settings and whatever was read before it;
and only if all of them can be read, for the first ceiling that is no number, infinite, zero or
negative. -/
theorem load_exact (env : Environment) :
    (∀ c, load env = .ok c ↔
      c.GivenBy env ∧ ∀ k, (c.limit k).IsFinite ∧ zeroOf false < c.limit k) ∧
    ∀ e, load env = .error e ↔
      Setting.FirstRefused env Setting.all e ∨
      ∃ c : Ceilings, c.GivenBy env ∧
        ∃ k, FirstWith (fun k => OutOfRange (c.limit k)) Ceiling.all k ∧ e = .inadmissible k := by
  constructor
  · intro c
    rw [load_eq_ok_iff, ofEnvironment_eq_ok_iff, check_eq_ok_iff]
    rfl
  · intro e
    simp only [load_eq_error_iff, ofEnvironment_eq_error_iff, ofEnvironment_eq_ok_iff,
      check_eq_error_iff, not_admissible_iff]

/-- The first ceiling is out of range, but the system, which is read last, is unknown. -/
example :
    (match load (.ofList [("TRACK_FILTERS_LENGTH_MAX", "nan".toUTF8),
        ("TRACK_FILTERS_METRIC_SYSTEM", "parsecs".toUTF8)]) with
      | .ok _ => ""
      | .error e => e.message) = "Parse error: Invalid TRACK_FILTERS_METRIC_SYSTEM" := by
  decide +kernel

end Ceilings

end TrackSieve
