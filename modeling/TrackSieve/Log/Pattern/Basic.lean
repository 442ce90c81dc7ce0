import TrackSieve.Log.Pattern.Class
import TrackSieve.Log.Pattern.Group

/-!
# Patterns

A pattern is a regular expression. It is never matched here; what counts is whether a text is one.
Counted repetition needs a closing brace, which a condition cannot hold, so an opening brace is
refused where it would start one. A text is a pattern if it can be read part by part and is not too
high.
-/

namespace TrackSieve.Log.Pattern

/-- Where the reading of a pattern stands: the switches in force, what has been read of the
innermost group, the open groups around it with the switches in force there, the innermost first,
and the names of groups so far. -/
structure State where
  mode : Mode
  body : GroupBody
  around : List (Mode × GroupBody)
  names : List (List Char)

namespace State

/-- The state before anything is read. -/
def start : State := ⟨.standard, .empty, [], []⟩

/-- The state after one more part of some height. -/
def push (s : State) (height : Nat) : State := { s with body := s.body.push height }

/-- The state behind the start of a group. A name must be new. -/
def open? (s : State) : Opening → Option State
  | .switches m => some { s with mode := m, body := s.body.pushSwitches }
  | .group name m =>
    if name.any s.names.contains then none
    else some ⟨m, .empty, (s.mode, s.body) :: s.around, name.toList ++ s.names⟩

/-- The state behind the end of a group. -/
def close? (s : State) : Option State :=
  match s.around with
  | [] => none
  | (m, outer) :: around => some ⟨m, outer.push (s.body.height + 1), around, s.names⟩

/-- Whether a pattern may end here. -/
def mayEnd (s : State) : Bool := s.around.isEmpty && s.body.height ≤ heightLimit

end State

/-- Takes one element off a pattern. -/
def step? (s : State) : List Char → Option (State × List Char)
  | [] => none
  | '(' :: cs =>
    (readOpening? s.mode cs).bind fun (opening, rest) => (s.open? opening).map fun t => (t, rest)
  | ')' :: cs => s.close?.map fun t => (t, cs)
  | '|' :: cs => some ({ s with body := s.body.branch }, cs)
  | '?' :: cs | '*' :: cs | '+' :: cs =>
    s.body.repeatLast?.map fun body =>
      ({ s with body }, if cs.head? = some '?' then cs.tail else cs)
  | '\x7b' :: _ => none
  | '[' :: cs => (readClass? s.mode cs).map fun (height, rest) => (s.push height, rest)
  | '.' :: cs => if s.mode.unicode then some (s.push 0, cs) else none
  | '^' :: cs | '$' :: cs => some (s.push 0, cs)
  | cs =>
    (readItem? s.mode cs).bind fun (item, rest) =>
      if item.mayStand s.mode then some (s.push 0, rest) else none

/-- Whether the rest of a pattern can be read. Every step takes a character off the text, of which
`fuel` bounds the length. -/
def reads (fuel : Nat) (s : State) (cs : List Char) : Bool :=
  match s.mode.skip cs, fuel with
  | [], _ => s.mayEnd
  | _, 0 => false
  | rest, fuel + 1 => (step? s rest).any fun (t, behind) => reads fuel t behind

/-- Whether a text is a pattern. -/
def isPattern (s : String) : Bool := reads s.length .start s.toList

end TrackSieve.Log.Pattern
