import TrackSieve.Environment
import TrackSieve.Log.Directive
import TrackSieve.Text.Blank

/-!
# Log settings

What a host sets about the log: how much is logged, in which form, and under which name the service
starts. The environment sets it through variables; one that is not text counts as not set.
-/

namespace TrackSieve.Log

/-- The form of the lines of the log. -/
inductive Format
  | json
  | pretty
  | compact
deriving DecidableEq

namespace Format

/-- The name of a format. -/
def name : Format → String
  | json => "json"
  | pretty => "pretty"
  | compact => "compact"

/-- The name of a format in diagnostics. -/
def identifier : Format → String
  | json => "Json"
  | pretty => "Pretty"
  | compact => "Compact"

/-- The format of exactly this name. -/
def ofName? (s : String) : Option Format := [json, pretty, compact].find? (·.name = s)

end Format

/-- The settings of the log. The level is a level or a list of directives, as the host gave it.
Lines may show where and in which thread an entry was made. -/
structure Settings where
  level : String
  format : Format
  includeLocation : Bool
  includeThread : Bool
  serviceName : String
  serviceVersion : String

namespace Settings

/-- The settings of a host that sets nothing. -/
def standard : Settings where
  level := "info"
  format := .pretty
  includeLocation := false
  includeThread := false
  serviceName := "track-range-filters"
  serviceVersion := "0.1.0"

/-- The settings that an environment gives. -/
def ofEnvironment (env : Environment) : Settings where
  level := (env.text? "RUST_LOG").getD standard.level
  format := ((env.text? "LOG_FORMAT").bind Format.ofName?).getD standard.format
  includeLocation := (env.text? "LOG_INCLUDE_LOCATION").isSome
  includeThread := (env.text? "LOG_INCLUDE_THREAD").isSome
  serviceName := (env.text? "SERVICE_NAME").getD standard.serviceName
  serviceVersion := (env.text? "SERVICE_VERSION").getD standard.serviceVersion

/-- What the names of all targets of the filters start with. -/
def ownTarget : String := "track_range_filters"

/-- The level that the settings give if it is a single one. A comma may stand behind it, and blanks
behind the comma. -/
def ownLevel? (s : Settings) : Option Level :=
  let level := s.level.toList
  match (Text.trimEnd level).dropWhile (· ≠ ',') with
  | [] => Directive.levelOfChars? level
  | [_] => Directive.levelOfChars? (level.takeWhile (· ≠ ','))
  | _ => none

/-- The directive for the targets of the filters: the level of the settings if it is a single one,
and else a plain one for information. -/
def ownDirective (s : Settings) : Directive :=
  match s.ownLevel? with
  | some l => .ofTarget ownTarget l
  | none => .plain .info

/-- The directives of the settings: the listed ones and the one for the filters. -/
def directives (s : Settings) : Directives :=
  (Directives.ofText s.level).insert s.ownDirective

end Settings

end TrackSieve.Log
