import TrackSieve.Ceilings.Basic
import TrackSieve.Json.Document
import TrackSieve.Json.Record

/-!
# Stored ceilings

Ceilings as JSON: the five ceilings under their names, and the measurement system.
-/

namespace TrackSieve.Ceilings

/-- The name of the field that stores the measurement system. -/
def systemField : String := "default_measurement_system"

/-- The names of the fields of stored ceilings. -/
def fieldNames : List String := Ceiling.all.map Ceiling.name ++ [systemField]

/-- The JSON value of ceilings. -/
def toJson (c : Ceilings) : Json :=
  .ofMembers (Ceiling.all.map (fun k => (k.name, .ofDouble (c.limit k))) ++
    [(systemField, .ofText c.system.name)])

/-- The ceilings that a JSON value stands for. -/
def ofJson? (j : Json) : Option Ceilings := do
  let fields ← j.fields? fieldNames
  let read := fun k : Ceiling => Json.required Json.double? fields k.name
  let system ← Json.required (Json.choice? MeasurementSystem.ofName?) fields systemField
  if Ceiling.all.all fun k => (read k).isSome then
    some { limit := fun k => (read k).getD default, system }
  else none

/-- The text of stored ceilings. -/
def store (c : Ceilings) : String := c.toJson.write

/-- The ceilings that a text stores. -/
def load? (s : String) : Option Ceilings := (Json.parse? s).bind ofJson?

end TrackSieve.Ceilings
