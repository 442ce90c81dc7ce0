import TrackSieve.Filter.Range
import TrackSieve.Json.Document
import TrackSieve.Json.Record

/-!
# Stored ranges

Ranges as JSON. A bound that is not finite is stored as `null`, and a range with such a bound is
not read back.
-/

namespace TrackSieve.Range

/-- The names of the fields of a stored range. -/
def fieldNames : List String := ["min_value", "max_value", "value_from", "value_to", "enabled"]

/-- The JSON value of a range. -/
def toJson (r : Range) : Json := .ofMembers [
  ("min_value", .ofDouble r.floor),
  ("max_value", .ofDouble r.ceiling),
  ("value_from", .ofDouble r.lower),
  ("value_to", .ofDouble r.upper),
  ("enabled", .bool r.enabled)]

/-- The range that a JSON value stands for. -/
def ofJson? (j : Json) : Option Range := do
  let fields ← j.fields? fieldNames
  return {
    floor := ← Json.required Json.double? fields "min_value"
    ceiling := ← Json.required Json.double? fields "max_value"
    lower := ← Json.required Json.double? fields "value_from"
    upper := ← Json.required Json.double? fields "value_to"
    enabled := ← Json.required Json.bool? fields "enabled" }

/-- The text of a stored range. -/
def store (r : Range) : String := r.toJson.write

/-- The range that a text stores. -/
def load? (s : String) : Option Range := (Json.parse? s).bind ofJson?

end TrackSieve.Range
