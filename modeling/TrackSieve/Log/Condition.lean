import TrackSieve.Decimal.Layout
import TrackSieve.Decimal.Reader
import TrackSieve.Log.Pattern.Basic
import TrackSieve.Text.Pieces

/-!
# Conditions on fields

A condition asks for a field of a name, and possibly for its value. A value is a switch, a whole
number of 64 bits, a double or a pattern, whichever of these a text spells first in this order.
Conditions have an order too, in which one that asks for a value counts for more.
-/

namespace TrackSieve.Log

/-- The value that a condition asks for. A `natural` lies below `2 ^ 64`, an `integer` is written
with a minus sign and lies at `-2 ^ 63` or above, and a `double` is no NaN. -/
inductive Expected where
  | switch (on : Bool)
  | natural (n : Nat)
  | integer (n : Int)
  | double (x : Binary64)
  | notANumber
  | pattern (p : String)
deriving DecidableEq

namespace Expected

/-- The number that a minus sign and digits spell. -/
def negative? : List Char → Option Int
  | '-' :: cs => if cs.head? = some '+' then none else (Digit.natural? cs).map fun n => -(n : Int)
  | _ => none

/-- The value that a double asks for. -/
def ofDouble (x : Binary64) : Expected := if x.IsNaN then notANumber else double x

/-- The value that a text spells. -/
def ofChars? (cs : List Char) : Option Expected :=
  if cs = "true".toList then some (switch true)
  else if cs = "false".toList then some (switch false)
  else
    (((Digit.natural? cs).filter (· < 0x10000000000000000)).map natural)
      <|> (((negative? cs).filter (-0x8000000000000000 ≤ ·)).map integer)
      <|> ((Binary64.ofChars? cs).map ofDouble)
      <|> (if Pattern.isPattern (String.ofList cs) then some (pattern (String.ofList cs)) else none)

/-- The text of a value. -/
def text : Expected → String
  | switch on => if on then "true" else "false"
  | natural n => String.ofList (Numeral.intChars n)
  | integer n => String.ofList (Numeral.intChars n)
  | double x => Layout.plain.text x
  | notANumber => "NaN"
  | pattern p => p

/-- The place of a kind of value in the order of values. -/
def rank : Expected → Nat
  | switch _ => 0
  | double _ => 1
  | notANumber => 2
  | natural _ => 3
  | integer _ => 4
  | pattern _ => 5

/-- The order of values: by kind, and within a kind by value. Both zeros stand at one place. -/
instance : Ord Expected where
  compare
    | switch a, switch b => compare a b
    | natural m, natural n => compare m n
    | integer m, integer n => compare m n
    | double x, double y => compare x.rank y.rank
    | pattern p, pattern q => compare p q
    | e, f => compare e.rank f.rank

end Expected

/-- A field that is asked for, with its value if one is asked for. -/
structure Condition where
  name : String
  expected : Option Expected
deriving DecidableEq

namespace Condition

/-- The text of a condition. -/
def text (c : Condition) : String := c.name ++ c.expected.elim "" fun e => "=" ++ e.text

/-- The condition that a text spells: a name, and a value behind an equals sign. What follows a
second equals sign counts for nothing. -/
def ofChars? (cs : List Char) : Option Condition :=
  match Text.pieces '=' cs with
  | [] => none
  | [name] => some ⟨String.ofList name, none⟩
  | name :: value :: _ =>
    (Expected.ofChars? value).map fun e => ⟨String.ofList name, some e⟩

/-- The order of conditions: first whether a value is asked for, then the name, then the value. -/
instance : Ord Condition where
  compare c d :=
    (compare c.expected.isSome d.expected.isSome).then
      ((compare c.name d.name).then (compare c.expected d.expected))

end Condition

end TrackSieve.Log
