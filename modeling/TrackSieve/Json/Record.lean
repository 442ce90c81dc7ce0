import TrackSieve.Json.Basic

/-!
# Records as JSON

A record with named fields is stored as an object or as an array. In an object the members stand in
any order, members of other names are passed over, and no field occurs twice. An array holds one
item for every field, in order. A field that may be absent is left out or `null`.
-/

namespace TrackSieve.Json

/-- The members of an object as texts and values, if every key denotes a text. -/
def textMembers? : List (Literal × Json) → Option (List (String × Json))
  | [] => some []
  | (none, _) :: _ => none
  | (some key, value) :: members => (textMembers? members).map ((key, value) :: ·)

/-- The values of the named fields of a record, each under its name and none twice. -/
def fields? (names : List String) : Json → Option (List (String × Json))
  | .object members => do
    let known := (← textMembers? members).filter fun m => names.contains m.1
    if (known.map Prod.fst).Nodup then some known else none
  | .array items => if items.length = names.length then some (names.zip items) else none
  | _ => none

/-- The value of a field that must be present. -/
def required {α : Type} (read? : Json → Option α) (fields : List (String × Json))
    (name : String) : Option α :=
  (fields.lookup name).bind read?

/-- The value of a field that may be left out or `null`. -/
def optional {α : Type} (read? : Json → Option α) (fields : List (String × Json))
    (name : String) : Option (Option α) :=
  match fields.lookup name with
  | none | some .null => some none
  | some j => (read? j).map some

end TrackSieve.Json
