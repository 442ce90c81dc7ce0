import TrackSieve.Decimal.Digit

/-!
# Log levels

Levels grow from `off`, which lets nothing through, to `trace`, which lets everything through. An
entry of the log has a level too and passes every limit that is not below it.
-/

namespace TrackSieve.Log

/-- A limit on the log, or the level of an entry. -/
inductive Level
  | off
  | error
  | warn
  | info
  | debug
  | trace
deriving DecidableEq

namespace Level

/-- All levels, in growing order. -/
def all : List Level := [off, error, warn, info, debug, trace]

/-- The number of a level. -/
def rank : Level → Nat
  | off => 0
  | error => 1
  | warn => 2
  | info => 3
  | debug => 4
  | trace => 5

/-- The name of a level in directives. -/
def name : Level → String
  | off => "off"
  | error => "error"
  | warn => "warn"
  | info => "info"
  | debug => "debug"
  | trace => "trace"

/-- The name of a level in the log. -/
def label (l : Level) : String := l.name.toUpper

/-- Whether an entry of a level passes a limit. -/
def Allows (limit entry : Level) : Prop := entry.rank ≤ limit.rank

instance (limit entry : Level) : Decidable (limit.Allows entry) :=
  inferInstanceAs (Decidable (_ ≤ _))

/-- The level of a number, or of a name in any case. -/
def ofChars? (cs : List Char) : Option Level :=
  all.find? fun l => Digit.natural? cs = some l.rank ∨ cs.map Char.toLower = l.name.toList

/-- The level of a number, or of a name in any case. -/
def ofText? (s : String) : Option Level := ofChars? s.toList

@[simp] theorem ofText?_name (l : Level) : ofText? l.name = some l := by
  cases l <;> decide

end Level

end TrackSieve.Log
