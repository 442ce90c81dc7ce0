import TrackSieve.Decimal.Digit
import TrackSieve.Text.Hex

/-!
# String literals

A string literal spells code points, as themselves or as escapes. Escapes of four hexadecimal
digits spell halves of surrogate pairs, and two matching halves spell one character. A literal with
a half on its own is well formed but denotes no text.
-/

namespace TrackSieve.Json

/-- What a string literal denotes: a text, or nothing when half of a surrogate pair stands alone. -/
abbrev Literal := Option String

namespace Literal

/-- The value of four hexadecimal digits. -/
def hexUnit? (a b c d : Char) : Option Nat := do
  let high := (← Text.hexDigit? a) * 16 + (← Text.hexDigit? b)
  let low := (← Text.hexDigit? c) * 16 + (← Text.hexDigit? d)
  return high * 256 + low

/-- The code point of an escape of one letter. -/
def escaped? : Char → Option Nat
  | '"' => some 0x22
  | '\\' => some 0x5c
  | '/' => some 0x2f
  | 'b' => some 0x08
  | 'f' => some 0x0c
  | 'n' => some 0x0a
  | 'r' => some 0x0d
  | 't' => some 0x09
  | _ => none

/-- The code points that a literal spells up to its closing quote, and the text behind the quote.
Control characters must not stand for themselves. -/
def readPoints? : List Char → Option (List Nat × List Char)
  | [] => none
  | '"' :: rest => some ([], rest)
  | '\\' :: 'u' :: a :: b :: c :: d :: rest => do
    let unit ← hexUnit? a b c d
    let (points, rest) ← readPoints? rest
    return (unit :: points, rest)
  | '\\' :: c :: rest => do
    let point ← escaped? c
    let (points, rest) ← readPoints? rest
    return (point :: points, rest)
  | c :: rest =>
    if c.toNat < 0x20 ∨ c = '\\' then none
    else do
      let (points, rest) ← readPoints? rest
      return (c.toNat :: points, rest)

/-- The characters that code points spell, matching halves of surrogate pairs joined. -/
def joinPairs? : List Nat → Option (List Char)
  | [] => some []
  | high :: low :: rest =>
    if 0xd800 ≤ high ∧ high < 0xdc00 ∧ 0xdc00 ≤ low ∧ low < 0xe000 then
      (Char.ofNat (0x10000 + (high - 0xd800) * 0x400 + (low - 0xdc00)) :: ·) <$> joinPairs? rest
    else if 0xd800 ≤ high ∧ high < 0xe000 then none
    else (Char.ofNat high :: ·) <$> joinPairs? (low :: rest)
  | [point] => if 0xd800 ≤ point ∧ point < 0xe000 then none else some [Char.ofNat point]

/-- A literal whose opening quote was read, and the text behind its closing quote. -/
def read? (cs : List Char) : Option (Literal × List Char) :=
  (readPoints? cs).map fun (points, rest) => ((joinPairs? points).map String.ofList, rest)

/-- Reading up to the closing quote consumes text. -/
theorem length_of_readPoints? {cs rest : List Char} {points : List Nat}
    (h : readPoints? cs = some (points, rest)) : rest.length < cs.length := by
  fun_induction readPoints? cs generalizing points rest with
  | case1 => simp at h
  | case2 rest' => simp_all
  | case3 a b c d rest' ih =>
    obtain ⟨_, _, h⟩ := Option.bind_eq_some_iff.1 h
    obtain ⟨⟨ps, r⟩, hr, h⟩ := Option.bind_eq_some_iff.1 h
    have := ih hr
    simp at h
    simp only [List.length_cons, ← h.2]
    omega
  | case4 c rest' _ ih =>
    obtain ⟨_, _, h⟩ := Option.bind_eq_some_iff.1 h
    obtain ⟨⟨ps, r⟩, hr, h⟩ := Option.bind_eq_some_iff.1 h
    have := ih hr
    simp at h
    simp only [List.length_cons, ← h.2]
    omega
  | case5 c rest' _ _ _ => simp at h
  | case6 c rest' _ _ _ _ ih =>
    obtain ⟨⟨ps, r⟩, hr, h⟩ := Option.bind_eq_some_iff.1 h
    have := ih hr
    simp at h
    simp only [List.length_cons, ← h.2]
    omega

theorem length_of_read? {cs rest : List Char} {l : Literal} (h : read? cs = some (l, rest)) :
    rest.length < cs.length := by
  obtain ⟨⟨points, r⟩, hr, h⟩ := Option.map_eq_some_iff.1 h
  have := length_of_readPoints? hr
  simp_all

/-- A hexadecimal digit in lower case. -/
def hexChar (n : Nat) : Char := Nat.digitChar n

/-- A character as it stands in a literal: quotes, backslashes and control characters escaped. -/
def escape (c : Char) : List Char :=
  match c with
  | '"' => ['\\', '"']
  | '\\' => ['\\', '\\']
  | '\x08' => ['\\', 'b']
  | '\x0c' => ['\\', 'f']
  | '\n' => ['\\', 'n']
  | '\r' => ['\\', 'r']
  | '\t' => ['\\', 't']
  | c =>
    if c.toNat < 0x20 then
      ['\\', 'u', '0', '0', hexChar (c.toNat / 16), hexChar (c.toNat % 16)]
    else [c]

/-- The characters of a literal. What denotes no text is spelled as half of a surrogate pair. -/
def chars : Literal → List Char
  | some s => '"' :: s.toList.flatMap escape ++ ['"']
  | none => ['"', '\\', 'u', 'd', '8', '0', '0', '"']

end Literal

end TrackSieve.Json
