import TrackSieve.Filter.Diagnostic
import TrackSieve.Json.Basic
import TrackSieve.Log.Settings
import TrackSieve.Text.Pieces

/-!
# Log entries

An entry has a level, a target, a message and named values. It is logged as lines of text or as a
JSON value.
-/

namespace TrackSieve.Log

/-- A value of an entry. -/
inductive Value where
  | double (x : Binary64)
  | switch (on : Bool)
  | text (s : String)

namespace Value

/-- The text of a value. -/
def shown : Value → String
  | double x => Layout.diagnostic.text x
  | switch on => switchText on
  | text s => s

/-- The JSON value of a value. -/
def toJson : Value → Json
  | double x => .ofDouble x
  | switch on => .bool on
  | text s => .ofText s

end Value

/-- An entry of the log: how important it is, which part of the program made it, what happened, and
the values that belong to it. -/
structure Entry where
  level : Level
  target : String
  message : String
  fields : List (String × Value)

/-- A line of the log, without the time. -/
inductive Line where
  | text (s : String)
  | json (j : Json)

/-- The lines that a text stands on. -/
def Line.ofText (s : String) : List Line :=
  (Text.lines s.toList).map fun cs => .text (String.ofList cs)

namespace Entry

/-- The level of an entry in five columns. -/
def columns (e : Entry) : String :=
  String.ofList (List.replicate (5 - e.level.label.length) ' ') ++ e.level.label

/-- The message and the values of an entry. -/
def body (e : Entry) : String :=
  " ".intercalate (e.message :: e.fields.map fun f => f.1 ++ "=" ++ f.2.shown)

/-- The names of all fields of an entry; the message is a field too. -/
def fieldNames (e : Entry) : List String := "message" :: e.fields.map Prod.fst

/-- The lines of an entry. A line end in a value ends a line of text. -/
def lines (e : Entry) : Format → List Line
  | .json => [.json <| .ofMembers [
      ("level", .ofText e.level.label),
      ("fields", .ofMembers (("message", .ofText e.message) ::
        e.fields.map fun f => (f.1, f.2.toJson))),
      ("target", .ofText e.target)]]
  | .pretty => Line.ofText (" " ++ e.columns ++ " " ++ e.target ++ ": " ++ e.body)
  | .compact => Line.ofText (" " ++ e.columns ++ " " ++ e.body)

end Entry

end TrackSieve.Log
