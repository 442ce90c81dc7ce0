import TrackSieve.Log.Pattern.Mode
import TrackSieve.Text.Hex

/-!
# Items of patterns

The smallest parts of a pattern are characters and escapes. As long as characters are matched,
there are no tables for letters of either case, digits, blanks, words and their borders. With bytes
these are the ones of ASCII, but then nothing may match a part of a character.
-/

namespace TrackSieve.Log.Pattern

/-- What a single item of a pattern is: a character, a byte given by its number, a class with a
letter for its name (digits, blanks or word characters), an end of the text or of a line, or a place
between a word and something else. -/
inductive Item where
  | literal (c : Char)
  | byte (c : Char)
  | letterClass (negated : Bool)
  | border
  | wordBorder

namespace Item

/-- Whether an item may stand outside of classes. -/
def mayStand (m : Mode) : Item → Bool
  | literal _ => !m.folds
  | byte c => !m.folds && (m.unicode || c.toNat < 0x80)
  | letterClass negated => !m.unicode && !negated
  | border => true
  | wordBorder => !m.unicode

/-- Whether an item may be a member of a class. -/
def mayJoin (m : Mode) : Item → Bool
  | literal c | byte c => !m.folds && (m.unicode || c.toNat < 0x80)
  | letterClass negated => !m.unicode && !negated
  | border | wordBorder => false

/-- The character that an item is. -/
def char? : Item → Option Char
  | literal c | byte c => some c
  | _ => none

end Item

/-- A number of exactly so many digits in base sixteen, added to what was read before. -/
def readHex? (m : Mode) : Nat → Nat → List Char → Option (Nat × List Char)
  | 0, value, cs => some (value, cs)
  | count + 1, value, cs =>
    match m.skip cs with
    | [] => none
    | c :: rest => (Text.hexDigit? c).bind fun d => readHex? m count (16 * value + d) rest

/-- The character of a number of exactly so many digits. -/
def readCode? (m : Mode) (digits : Nat) (cs : List Char) : Option (Char × List Char) :=
  (readHex? m digits 0 cs).bind fun (n, rest) =>
    if n.isValidChar then some (Char.ofNat n, rest) else none

/-- What stands behind a backslash. -/
def readEscape? (m : Mode) : List Char → Option (Item × List Char)
  | [] => none
  | c :: cs =>
    match c with
    | 'x' => (readCode? m 2 cs).map fun (d, rest) => (.byte d, rest)
    | 'u' => (readCode? m 4 cs).map fun (d, rest) => (.literal d, rest)
    | 'U' => (readCode? m 8 cs).map fun (d, rest) => (.literal d, rest)
    | 'd' | 's' | 'w' => some (.letterClass false, cs)
    | 'D' | 'S' | 'W' => some (.letterClass true, cs)
    | 'A' | 'z' => some (.border, cs)
    | 'b' | 'B' | '<' | '>' => some (.wordBorder, cs)
    | 'a' => some (.literal '\x07', cs)
    | 'f' => some (.literal '\x0c', cs)
    | 'n' => some (.literal '\n', cs)
    | 'r' => some (.literal '\r', cs)
    | 't' => some (.literal '\t', cs)
    | 'v' => some (.literal '\x0b', cs)
    | _ => if c.toNat < 0x80 ∧ ¬c.isAlphanum then some (.literal c, cs) else none

/-- The next item: an escape or a character. -/
def readItem? (m : Mode) : List Char → Option (Item × List Char)
  | [] => none
  | '\\' :: cs => readEscape? m cs
  | c :: cs => some (.literal c, cs)

end TrackSieve.Log.Pattern
