import TrackSieve.Json.Document
import TrackSieve.Json.Record
import TrackSieve.Track.Basic

/-!
# Stored tracks

Analyses and tracks as JSON. Quantities that are absent and an analysis that is missing are left
out; a quantity that is not finite is stored as `null` and so comes back absent.
-/

namespace TrackSieve

namespace Analysis

/-- The JSON value of an analysis. -/
def toJson (a : Analysis) : Json :=
  .ofMembers (Quantity.all.filterMap fun q => (a.value? q).map fun x => (q.name, .ofDouble x))

/-- The analysis that a JSON value stands for. -/
def ofJson? (j : Json) : Option Analysis := do
  let fields ← j.fields? (Quantity.all.map Quantity.name)
  let read := fun q : Quantity => Json.optional Json.double? fields q.name
  if Quantity.all.all fun q => (read q).isSome then some ⟨fun q => (read q).join⟩ else none

end Analysis

namespace Track

/-- The names of the fields of a stored track. -/
def fieldNames : List String := ["name", "path", "analysis"]

/-- The JSON value of a track. -/
def toJson (t : Track) : Json :=
  .ofMembers ([("name", .ofText t.name), ("path", .ofText t.path)] ++
    (t.analysis.map fun a => ("analysis", a.toJson)).toList)

/-- The track that a JSON value stands for. -/
def ofJson? (j : Json) : Option Track := do
  let fields ← j.fields? fieldNames
  return {
    name := ← Json.required Json.text? fields "name"
    path := ← Json.required Json.text? fields "path"
    analysis := ← Json.optional Analysis.ofJson? fields "analysis" }

/-- The text of a stored track. -/
def store (t : Track) : String := t.toJson.write

/-- The track that a text stores. -/
def load? (s : String) : Option Track := (Json.parse? s).bind ofJson?

end Track

end TrackSieve
