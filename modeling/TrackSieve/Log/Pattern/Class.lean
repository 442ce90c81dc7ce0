import TrackSieve.Log.Pattern.Height
import TrackSieve.Log.Pattern.Item

/-!
# Classes of patterns

A class stands in brackets. Its members are characters, ranges, named classes and other classes,
and operators between them combine all members on their left with all on their right.
-/

namespace TrackSieve.Log.Pattern

/-- The names of the classes that are written between colons. -/
def classNames : List String :=
  ["alnum", "alpha", "ascii", "blank", "cntrl", "digit", "graph", "lower", "print", "punct",
    "space", "upper", "word", "xdigit"]

/-- A class with a name between colons, after its bracket: whether it is negated, and the rest. -/
def readNamed? : List Char → Option (Bool × List Char)
  | ':' :: cs =>
    let negated := cs.head? = some '^'
    let named := if negated then cs.tail else cs
    match named.dropWhile (· ≠ ':') with
    | ':' :: ']' :: rest =>
      if String.ofList (named.takeWhile (· ≠ ':')) ∈ classNames then some (negated, rest) else none
    | _ => none
  | _ => none

/-- The rest behind a member that is an item or a range between two characters. -/
def skipMember? (m : Mode) (cs : List Char) : Option (List Char) :=
  (readItem? m cs).bind fun (item, behind) =>
    if !item.mayJoin m then none
    else
      match m.skip behind with
      | '-' :: rest =>
        if m.peek? rest = some ']' ∨ m.peek? rest = some '-' then some ('-' :: rest)
        else
          (readItem? m (m.skip rest)).bind fun (other, behind) =>
            if !other.mayJoin m then none
            else
              item.char?.bind fun c => other.char?.bind fun d =>
                if c ≤ d then some behind else none
      | rest => some rest

/-- How far a class has got: nothing has been read, a circumflex, only minus signs since then, or
more than that. -/
inductive Stage where
  | opened
  | negated
  | dashed
  | filled

/-- What has been read of a class: the height of what stands before the last operator, if there is
one, and the members since then. -/
structure ClassBody where
  operand : Option Nat
  members : Row

namespace ClassBody

/-- Nothing. -/
def empty : ClassBody := ⟨none, .empty⟩

/-- A class with one more member of some height. -/
def push (b : ClassBody) (height : Nat) : ClassBody := { b with members := b.members.push height }

/-- The height of what has been read. -/
def height (b : ClassBody) : Nat :=
  b.operand.elim b.members.height fun h => max h b.members.height + 1

/-- What has been read, behind one more operator. -/
def operate (b : ClassBody) : ClassBody := ⟨some b.height, .empty⟩

end ClassBody

/-- The height of a class that is open and lies inside of others, and the rest behind the last of
them. Every step takes a character off the text, of which `fuel` bounds the length. -/
def skipClass? (m : Mode) (fuel : Nat) (stage : Stage) (body : ClassBody)
    (around : List ClassBody) (cs : List Char) : Option (Nat × List Char) :=
  match fuel with
  | 0 => none
  | fuel + 1 =>
    match stage, m.skip cs with
    | _, [] => none
    | .opened, '^' :: rest =>
      if m.unicode then skipClass? m fuel .negated body around rest else none
    | .opened, '-' :: rest | .negated, '-' :: rest | .dashed, '-' :: rest =>
      if m.folds then none else skipClass? m fuel .dashed (body.push 0) around rest
    | .opened, ']' :: rest | .negated, ']' :: rest =>
      if m.folds then none else skipClass? m fuel .filled (body.push 0) around rest
    | _, '[' :: rest =>
      match readNamed? rest with
      | some (negated, behind) =>
        if m.folds || (negated && !m.unicode) then none
        else skipClass? m fuel .filled (body.push 0) around behind
      | none => skipClass? m fuel .opened .empty (body :: around) rest
    | _, ']' :: rest =>
      match around with
      | [] => some (body.height + 1, rest)
      | outer :: around => skipClass? m fuel .filled (outer.push (body.height + 1)) around rest
    | _, '&' :: '&' :: rest | _, '-' :: '-' :: rest | _, '~' :: '~' :: rest =>
      skipClass? m fuel .filled body.operate around rest
    | _, rest => (skipMember? m rest).bind (skipClass? m fuel .filled (body.push 0) around)

/-- The height of the class behind an opening bracket, and the rest behind the class. -/
def readClass? (m : Mode) (cs : List Char) : Option (Nat × List Char) :=
  skipClass? m cs.length .opened .empty [] cs

end TrackSieve.Log.Pattern
