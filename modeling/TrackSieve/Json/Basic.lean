import TrackSieve.Json.Literal
import TrackSieve.Json.Number

/-!
# JSON values

A JSON value keeps its numbers as they are spelled and its members in order, repeated keys
included. What a number or a string denotes is settled by the reader of a value, so a part of a
document that nobody reads may hold numbers out of range and strings that denote no text.
-/

namespace TrackSieve

/-- A JSON value. -/
inductive Json where
  | null
  | bool (b : Bool)
  | number (n : Numeral)
  | string (s : Json.Literal)
  | array (items : List Json)
  | object (members : List (Json.Literal × Json))

namespace Json

/-- The value of a double; what is not finite has none and becomes `null`. -/
def ofDouble (x : Binary64) : Json :=
  if x.IsFinite then .number (Layout.json.numeral x) else .null

/-- The value of a text. -/
def ofText (s : String) : Json := .string (some s)

/-- The value of an object with the given members. -/
def ofMembers (members : List (String × Json)) : Json :=
  .object (members.map fun m => (some m.1, m.2))

/-- The double that a value stands for; a number out of range stands for none. -/
def double? : Json → Option Binary64
  | .number n => if (nearest n).IsFinite then some (nearest n) else none
  | _ => none

/-- The truth value that a value stands for. -/
def bool? : Json → Option Bool
  | .bool b => some b
  | _ => none

/-- The text that a value stands for. -/
def text? : Json → Option String
  | .string (some s) => some s
  | _ => none

/-- One of several named choices: its name as a string, or an object with that one key and the
value `null`. -/
def choice? {α : Type} (ofName? : String → Option α) : Json → Option α
  | .string (some s) => ofName? s
  | .object [(some s, .null)] => ofName? s
  | _ => none

@[simp] theorem choice?_ofText {α : Type} (ofName? : String → Option α) (s : String) :
    choice? ofName? (ofText s) = ofName? s := rfl

end Json

end TrackSieve
