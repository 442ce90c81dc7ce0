import TrackSieve.Log.Condition
import TrackSieve.Log.Level
import TrackSieve.Text.Blank
import TrackSieve.Text.Cut
import TrackSieve.Text.Letter
import TrackSieve.Text.Pieces

/-!
# Log directives

A directive limits the level of what it is for: targets whose names start with a text, spans of a
name, and entries and spans with a field. A span is a stretch of work in which entries are made.
Directives are kept in two lists, the most specific first. The first one for an entry decides about
it, and the ones for spans decide about spans alone.
-/

namespace TrackSieve.Log

/-- A limit on what is logged, for the targets whose names start as given, for the spans of a name
and for a field that is asked for. What is not given does not narrow it. -/
structure Directive where
  target : Option String
  span : Option String
  condition : Option Condition
  level : Level
deriving DecidableEq

namespace Directive

/-- The directive for everything. -/
def plain (l : Level) : Directive := ⟨none, none, none, l⟩

/-- The directive for the targets whose names start with a text. -/
def ofTarget (name : String) (l : Level) : Directive := ⟨some name, none, none, l⟩

/-- A directive for everything. -/
def IsPlain (d : Directive) : Prop := d.target = none ∧ d.span = none ∧ d.condition = none

/-- A directive that decides about entries: it names no span and asks for no value. -/
def ForEntries (d : Directive) : Prop := d.span = none ∧ ∀ c ∈ d.condition, c.expected = none

/-- A directive that decides about spans: it names one or asks for a field. -/
def ForSpans (d : Directive) : Prop := d.span ≠ none ∨ d.condition ≠ none

instance (d : Directive) : Decidable d.IsPlain := inferInstanceAs (Decidable (_ ∧ _))
instance (d : Directive) : Decidable d.ForEntries := inferInstanceAs (Decidable (_ ∧ _))
instance (d : Directive) : Decidable d.ForSpans := inferInstanceAs (Decidable (_ ∨ _))

/-! ### Text -/

/-- The text of what is asked for inside of brackets. -/
def bracketText (d : Directive) : String :=
  if d.span = none ∧ d.condition = none then ""
  else
    "[" ++ d.span.getD "" ++ d.condition.elim "" (fun c => "\x7b" ++ c.text ++ "\x7d") ++ "]"

/-- The text of a directive. -/
def text (d : Directive) : String :=
  (if d.IsPlain then "" else d.target.getD "" ++ d.bracketText ++ "=") ++ d.level.name

/-- Whether a directive may start with a character: a letter, a number or one of three marks. -/
def mayStart (c : Char) : Bool :=
  c == '-' || c == ':' || c == '_' || Text.isLetter c || Text.isNumber c

/-- The level that stands behind an equals sign; without one, every level passes. -/
def levelOfChars? (cs : List Char) : Option Level :=
  if cs = [] then some .trace else Level.ofChars? cs

/-- The level at the end of a directive, `rest` being what follows the part before it. Like all
parts it is cut out of the whole text. -/
def readLevel? (whole : List Char) (position : Nat) (rest : List Char) : Option Level :=
  match rest with
  | [] => some .trace
  | '=' :: _ => (Text.dropBytes? (position + 1) whole).bind levelOfChars?
  | _ => none

/-- A directive from its opening bracket on, `rest` being what follows the bracket. -/
def readBracket? (whole : List Char) (target : Option String) (position : Nat)
    (rest : List Char) : Option Directive := do
  let name := rest.takeWhile fun c => c ≠ ']' ∧ c ≠ '\x7b'
  let last := position + Text.byteCount name
  let span := String.ofList (← Text.cut? position last whole)
  match rest.dropWhile fun c => c ≠ ']' ∧ c ≠ '\x7b' with
  | ']' :: behind =>
    return ⟨target, some span, none, ← readLevel? whole (last + 1) behind⟩
  | '\x7b' :: inner =>
    let field := inner.takeWhile (· ≠ '\x7d')
    let stop := last + 1 + Text.byteCount field
    match inner.dropWhile (· ≠ '\x7d') with
    | '\x7d' :: ']' :: behind =>
      if field = [] then none
      else
        let condition ← (Text.cut? (last + 1) stop whole).bind Condition.ofChars?
        return ⟨target, if name = [] then none else some span, some condition,
          ← readLevel? whole (stop + 2) behind⟩
    | _ => none
  | _ => none

/-- The directive that a text without commas spells: a level; or a target, brackets with a span
and a field in braces, and a level behind an equals sign. The form is that of the text without the
blanks around it, but a part has its position in the whole text, so that blanks at the front shift
all parts. -/
def ofChars? (whole : List Char) : Option Directive :=
  match Text.trim whole with
  | [] => none
  | '[' :: rest => readBracket? whole none 1 rest
  | c :: cs =>
    if ¬mayStart c then none
    else
      let name := (c :: cs).takeWhile fun c => c ≠ '=' ∧ c ≠ '['
      let position := Text.byteCount name
      let target := (Text.cut? 0 position whole).map String.ofList
      match (c :: cs).dropWhile fun c => c ≠ '=' ∧ c ≠ '[' with
      | '[' :: rest => target.bind fun t => readBracket? whole (some t) (position + 1) rest
      | '=' :: rest =>
        target.bind fun t => (readLevel? whole position ('=' :: rest)).map (ofTarget t)
      | _ =>
        match Level.ofChars? whole with
        | some l => some (plain l)
        | none => some (ofTarget (String.ofList whole) .trace)

/-! ### Order -/

/-- How specific a directive is next to another: a longer target counts most, then a span, then a
field. Equally specific ones are put into some order by their texts, in which only directives for
the same things are equal. -/
def compareScope (d e : Directive) : Ordering :=
  (compare (d.target.map String.utf8ByteSize) (e.target.map String.utf8ByteSize)).then <|
  (compare d.span.isSome e.span.isSome).then <|
  (compare d.condition.isSome e.condition.isSome).then <|
  (compare d.target e.target).then <|
  (compare d.span e.span).then <|
  compare d.condition e.condition

/-- Whether a directive is for an entry of a target with some fields. -/
def Covers (d : Directive) (target : String) (fields : List String) : Prop :=
  (∀ name ∈ d.target, name.toList <+: target.toList) ∧ ∀ c ∈ d.condition, c.name ∈ fields

instance (d : Directive) (target : String) (fields : List String) :
    Decidable (d.Covers target fields) :=
  inferInstanceAs (Decidable (_ ∧ _))

end Directive

/-- The directives that are in force: those that decide about entries and those that decide about
spans, the most specific first. -/
structure Directives where
  entries : List Directive
  spans : List Directive

namespace Directives

/-- A list with a directive in its place; it replaces the one for the same things. -/
def place (d : Directive) : List Directive → List Directive
  | [] => [d]
  | e :: ds =>
    match d.compareScope e with
    | .eq => d :: ds
    | .gt => d :: e :: ds
    | .lt => e :: place d ds

/-- Some directives, each in its place; later ones replace earlier ones. -/
def arrange (ds : List Directive) : List Directive := ds.foldl (fun placed d => place d placed) []

/-- The directives with one more that decides about entries. -/
def insert (d : Directive) (ds : Directives) : Directives :=
  { ds with entries := place d ds.entries }

/-- The directives of a list. Without any, only errors pass. -/
def ofList : List Directive → Directives
  | [] => ⟨[.plain .error], []⟩
  | listed =>
    ⟨arrange (listed.filter (·.ForEntries)), arrange (listed.filter (·.ForSpans))⟩

/-- The directives that a text lists between commas. What is no directive is passed over. -/
def ofText (s : String) : Directives :=
  ofList ((Text.pieces ',' s.toList).filterMap Directive.ofChars?)

/-- The text of some directives. -/
def text (ds : Directives) : String :=
  ",".intercalate ((ds.entries ++ ds.spans).map Directive.text)

/-- The level of the plain directive, if there is one. -/
def plain? (ds : Directives) : Option Level :=
  (ds.entries.find? fun d => d.IsPlain).map Directive.level

/-- Whether an entry of a target, with some fields and a level, passes. -/
def Allow (ds : Directives) (target : String) (fields : List String) (level : Level) : Prop :=
  ∃ d ∈ ds.entries.find? fun d => d.Covers target fields, d.level.Allows level

instance (ds : Directives) (target : String) (fields : List String) (level : Level) :
    Decidable (ds.Allow target fields level) :=
  inferInstanceAs (Decidable (∃ d, d ∈ ds.entries.find? _ ∧ _))

end Directives

end TrackSieve.Log
