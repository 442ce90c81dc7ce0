import TrackSieve.Text.Blank

/-!
# Modes of patterns

Switches in a pattern decide how the rest of it is read. Only three of them decide what may stand
in it: whether case is ignored, whether characters or bytes are matched, and whether blanks and
comments are skipped. A comment goes from a number sign to the end of the line.
-/

namespace TrackSieve.Log.Pattern

/-- The switches of a pattern that decide what may stand in it: whether case is ignored, whether
characters are matched rather than bytes, and whether blanks and comments are skipped. -/
structure Mode where
  caseless : Bool
  unicode : Bool
  spaced : Bool
deriving DecidableEq

/-- A text without blanks and comments at its front; the flag tells that a comment is open. -/
def skipSpace : Bool → List Char → List Char
  | _, [] => []
  | true, c :: cs => skipSpace (c ≠ '\n') cs
  | false, c :: cs =>
    if Text.isBlank c then skipSpace false cs
    else if c = '#' then skipSpace true cs
    else c :: cs

/-- The first character that is neither a blank nor the first number sign; the flag tells that
there was a number sign. -/
def glance? : Bool → List Char → Option Char
  | _, [] => none
  | signed, c :: cs =>
    if Text.isBlank c then glance? signed cs
    else if c = '#' ∧ !signed then glance? true cs
    else some c

namespace Mode

/-- The switches at the start of a pattern. -/
def standard : Mode := ⟨false, true, false⟩

/-- Whether characters are to be matched without regard to case, for which there is no table. -/
def folds (m : Mode) : Bool := m.caseless && m.unicode

/-- The mode after a letter that switches something on or off. -/
def set (m : Mode) (on : Bool) (letter : Char) : Mode :=
  match letter with
  | 'i' => { m with caseless := on }
  | 'u' => { m with unicode := on }
  | 'x' => { m with spaced := on }
  | _ => m

/-- The mode after some switches; those behind a minus are off. -/
def switch (m : Mode) (switches : List Char) : Mode :=
  let off := (switches.dropWhile (· ≠ '-')).tail
  off.foldl (fun n c => n.set false c)
    ((switches.takeWhile (· ≠ '-')).foldl (fun n c => n.set true c) m)

/-- A text without what is skipped at its front. -/
def skip (m : Mode) (cs : List Char) : List Char := if m.spaced then skipSpace false cs else cs

/-- The character by which a minus sign in front of a text is told to be one of a range. Where
blanks are skipped, so is one number sign, but not the comment behind it. -/
def peek? (m : Mode) (cs : List Char) : Option Char :=
  if m.spaced then (glance? false cs).or cs.head? else cs.head?

end Mode

end TrackSieve.Log.Pattern
