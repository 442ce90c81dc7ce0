import TrackSieve.Log.Pattern.Height
import TrackSieve.Log.Pattern.Mode
import TrackSieve.Text.Letter

/-!
# Groups of patterns

A group stands in parentheses and may start with a name or with switches. Switches without a group
hold for the rest of the group around them. A group lists alternatives, and an alternative is a row
of parts, of which the last may be repeated.
-/

namespace TrackSieve.Log.Pattern

/-- Whether a group may have this name. -/
def mayName : List Char → Bool
  | [] => false
  | c :: cs =>
    (c = '_' || Text.isLetter c) &&
      cs.all fun d => d = '_' || d = '.' || d = '[' || d = ']' || Text.isLetter d || Text.isNumber d

/-- Whether a text is a list of different switches, with a minus at most once and not at its end. -/
def areSwitches (cs : List Char) : Bool :=
  cs.all "imsURux-".toList.contains && decide cs.Nodup && cs.getLast? ≠ some '-'

/-- What the start of a group is: that of a group, which may have a name, or switches for the rest
of the group around it. -/
inductive Opening where
  | group (name : Option (List Char)) (m : Mode)
  | switches (m : Mode)

/-- The start of a group with a name. -/
def readName? (m : Mode) (cs : List Char) : Option (Opening × List Char) :=
  let name := cs.takeWhile (· ≠ '>')
  match cs.dropWhile (· ≠ '>') with
  | '>' :: rest => if mayName name then some (.group (some name) m, rest) else none
  | _ => none

/-- The start of a group behind its parenthesis. What looks around the text is refused. -/
def readOpening? (m : Mode) (cs : List Char) : Option (Opening × List Char) :=
  match m.skip cs with
  | '?' :: '=' :: _ | '?' :: '!' :: _ | '?' :: '<' :: '=' :: _ | '?' :: '<' :: '!' :: _ => none
  | '?' :: 'P' :: '<' :: rest | '?' :: '<' :: rest => readName? m rest
  | '?' :: rest =>
    let switches := rest.takeWhile fun c => c ≠ ':' ∧ c ≠ ')'
    if !areSwitches switches then none
    else
      match rest.dropWhile fun c => c ≠ ':' ∧ c ≠ ')' with
      | ':' :: behind => some (.group none (m.switch switches), behind)
      | ')' :: behind =>
        if switches = [] then none else some (.switches (m.switch switches), behind)
      | _ => none
  | rest => some (.group none m, rest)

/-- What has been read of a group: the alternatives before the last bar, the parts since then, and
the height of the last part, if it may be repeated. -/
structure GroupBody where
  alternatives : Row
  parts : Row
  last : Option Nat

namespace GroupBody

/-- Nothing. -/
def empty : GroupBody := ⟨.empty, .empty, none⟩

/-- A group with one more part of some height, which may be repeated. -/
def push (b : GroupBody) (height : Nat) : GroupBody :=
  { b with parts := b.parts.push height, last := some height }

/-- A group with one more part that is not to be repeated. -/
def pushSwitches (b : GroupBody) : GroupBody := { b with parts := b.parts.push 0, last := none }

/-- A group with its last part repeated. -/
def repeatLast? (b : GroupBody) : Option GroupBody :=
  b.last.map fun h => { b with parts := b.parts.raise (h + 1), last := some (h + 1) }

/-- A group behind one more bar. -/
def branch (b : GroupBody) : GroupBody := ⟨b.alternatives.push b.parts.height, .empty, none⟩

/-- The height of what stands in a group. -/
def height (b : GroupBody) : Nat := (b.alternatives.push b.parts.height).height

end GroupBody

end TrackSieve.Log.Pattern
