import TrackSieve.Json.Token

/-!
# JSON documents

A document is a value and its text. Writing lays a value out as tokens without blanks. Reading
takes tokens one at a time and keeps the open containers on a stack; a token that cannot stand
where it is refuses the document.
-/

namespace TrackSieve.Json

mutual

/-- The tokens of a value. -/
def tokens : Json → List Token
  | .null => [.null]
  | .bool b => [.bool b]
  | .number n => [.number n]
  | .string s => [.string s]
  | .array items => .openArray :: tokensOfItems items ++ [.closeArray]
  | .object members => .openObject :: tokensOfMembers members ++ [.closeObject]

/-- The tokens of the items of an array, with commas between them. -/
def tokensOfItems : List Json → List Token
  | [] => []
  | [item] => tokens item
  | item :: items => tokens item ++ .comma :: tokensOfItems items

/-- The tokens of the members of an object, with commas between them. -/
def tokensOfMembers : List (Literal × Json) → List Token
  | [] => []
  | [(key, value)] => .string key :: .colon :: tokens value
  | (key, value) :: members =>
    .string key :: .colon :: tokens value ++ .comma :: tokensOfMembers members

end

/-- The text of a value. -/
def write (j : Json) : String := String.ofList (j.tokens.flatMap Token.chars)

/-- What is open while a document is read: the document itself, before or after its value; an array
or an object that was just opened or holds parts; or one of them that awaits an item or a key after
a comma, a colon after a key, or a value after a colon. Contents are kept, the last one first. -/
inductive Frame where
  | start
  | done (j : Json)
  | array (items : List Json)
  | nextItem (items : List Json)
  | object (members : List (Literal × Json))
  | nextKey (members : List (Literal × Json))
  | colon (members : List (Literal × Json)) (key : Literal)
  | value (members : List (Literal × Json)) (key : Literal)

/-- Hands a complete value to the innermost open frame. -/
def give (j : Json) : List Frame → Option (List Frame)
  | .start :: frames => some (.done j :: frames)
  | .array [] :: frames => some (.array [j] :: frames)
  | .nextItem items :: frames => some (.array (j :: items) :: frames)
  | .value members key :: frames => some (.object ((key, j) :: members) :: frames)
  | _ => none

/-- The open frames after one more token. -/
def step (frames : List Frame) : Token → Option (List Frame)
  | .null => give .null frames
  | .bool b => give (.bool b) frames
  | .number n => give (.number n) frames
  | .string s =>
    match frames with
    | .object [] :: frames => some (.colon [] s :: frames)
    | .nextKey members :: frames => some (.colon members s :: frames)
    | frames => give (.string s) frames
  | .colon =>
    match frames with
    | .colon members key :: frames => some (.value members key :: frames)
    | _ => none
  | .comma =>
    match frames with
    | .array (item :: items) :: frames => some (.nextItem (item :: items) :: frames)
    | .object (member :: members) :: frames => some (.nextKey (member :: members) :: frames)
    | _ => none
  | .openArray => some (.array [] :: frames)
  | .closeArray =>
    match frames with
    | .array items :: frames => give (.array items.reverse) frames
    | _ => none
  | .openObject => some (.object [] :: frames)
  | .closeObject =>
    match frames with
    | .object members :: frames => give (.object members.reverse) frames
    | _ => none

/-- The value of a whole document, given by its tokens. -/
def ofTokens? (ts : List Token) : Option Json :=
  match ts.foldlM step [.start] with
  | some [.done j] => some j
  | _ => none

/-- The value of a whole document, given by its text. -/
def parse? (s : String) : Option Json := (Token.lex? s.toList).bind ofTokens?

end TrackSieve.Json
