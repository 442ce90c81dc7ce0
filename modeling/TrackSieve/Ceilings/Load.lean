import TrackSieve.Ceilings.Basic
import TrackSieve.Decimal.Reader
import TrackSieve.Environment
import TrackSieve.Text.Quoted

/-!
# Loading ceilings from the environment

Each ceiling and the measurement system has a variable. A variable that is not set leaves the
standard value; one that is set must be readable, blanks around the value aside. Variables are read
in a fixed order and the first unreadable one refuses the environment; only then are the values of
the ceilings checked. The ceilings of a process are settled once and then stay as they are.
-/

namespace TrackSieve

/-- The variable that sets a ceiling. -/
def Ceiling.variableName : Ceiling → String
  | length => "TRACK_FILTERS_LENGTH_MAX"
  | speed => "TRACK_FILTERS_SPEED_MAX"
  | duration => "TRACK_FILTERS_DURATION_MAX"
  | altitude => "TRACK_FILTERS_ALTITUDE_MAX"
  | elevationChange => "TRACK_FILTERS_ELEVATION_CHANGE_MAX"

/-- Why ceilings cannot be loaded: the value of a variable is not text or cannot be read, or the
value of a ceiling is not positive and finite. -/
inductive LoadError
  | notText (value : ByteArray)
  | unreadable (name : String)
  | inadmissible (ceiling : Ceiling)

/-- The wording of a failure to load ceilings. -/
def LoadError.message : LoadError → String
  | notText value =>
    "Environment variable error: environment variable was not valid unicode: " ++
      Text.quoted value
  | unreadable name => "Parse error: Invalid " ++ name
  | inadmissible ceiling =>
    "Invalid range: " ++ ceiling.name ++ " must be a positive finite number"

namespace Environment

/-- The value of a setting: the standard one if its variable is not set, and else what is read from
the value of the variable without the blanks around it. -/
def setting {α : Type} (env : Environment) (name : String) (read? : String → Option α)
    (standard : α) : Except LoadError α :=
  match env.value? name with
  | none => .ok standard
  | some bytes =>
    match String.fromUTF8? bytes with
    | none => .error (.notText bytes)
    | some s =>
      match read? (String.ofList (Text.trim s.toList)) with
      | none => .error (.unreadable name)
      | some a => .ok a

/-- The value of a ceiling. -/
def limit (env : Environment) (c : Ceiling) : Except LoadError Binary64 :=
  env.setting c.variableName Binary64.ofText? c.standard

end Environment

namespace Ceilings

/-- The variable that sets the measurement system. -/
def systemVariable : String := "TRACK_FILTERS_METRIC_SYSTEM"

/-- The variables of all settings, in the order in which they are read. -/
def variableNames : List String := Ceiling.all.map Ceiling.variableName ++ [systemVariable]

/-- The ceilings as an environment sets them, checked or not. -/
def ofEnvironment (env : Environment) : Except LoadError Ceilings := do
  let length ← env.limit .length
  let speed ← env.limit .speed
  let duration ← env.limit .duration
  let altitude ← env.limit .altitude
  let elevationChange ← env.limit .elevationChange
  let system ← env.setting systemVariable MeasurementSystem.ofSetting? default
  let limit : Ceiling → Binary64
    | .length => length
    | .speed => speed
    | .duration => duration
    | .altitude => altitude
    | .elevationChange => elevationChange
  return { limit, system }

/-- The check of all ceilings. -/
def check (c : Ceilings) : Except LoadError Unit :=
  match c.firstInadmissible? with
  | some k => .error (.inadmissible k)
  | none => .ok ()

/-- The checked ceilings of an environment. -/
def load (env : Environment) : Except LoadError Ceilings := do
  let c ← ofEnvironment env
  c.check
  return c

/-- The outcome of loading, with the standard ceilings in place of a failure. -/
def loadOrStandard (env : Environment) : Ceilings :=
  match load env with
  | .ok c => c
  | .error _ => standard

/-- The ceilings of a process, once they are settled. -/
abbrev Settled := Option Ceilings

/-- The ceilings of a process under the present environment, and what is settled from then on. If
nothing was settled before, the outcome of loading is given too. -/
def Settled.get (settled : Settled) (env : Environment) :
    Ceilings × Settled × Option (Except LoadError Ceilings) :=
  match settled with
  | some c => (c, settled, none)
  | none => (loadOrStandard env, some (loadOrStandard env), some (load env))

end Ceilings

end TrackSieve
