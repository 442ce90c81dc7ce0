/-!
# Environments

An environment gives variables values. A value is a sequence of bytes and may fail to be text.
-/

namespace TrackSieve

/-- The values of environment variables; a variable that is not set has none. -/
structure Environment where
  value? : String → Option ByteArray

namespace Environment

/-- The environment with the listed settings. -/
def ofList (settings : List (String × ByteArray)) : Environment :=
  ⟨fun name => settings.lookup name⟩

/-- The value of a variable that is set to a text. -/
def text? (env : Environment) (name : String) : Option String :=
  (env.value? name).bind String.fromUTF8?

end Environment

end TrackSieve
