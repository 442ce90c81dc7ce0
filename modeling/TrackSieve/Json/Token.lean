import TrackSieve.Decimal.Reader
import TrackSieve.Json.Basic

/-!
# JSON tokens

A JSON text is a sequence of tokens with blanks between them. Only space, tab and the two line
ends are blank; a number takes as many characters as it can.
-/

namespace TrackSieve.Json

/-- A token of a JSON text. -/
inductive Token where
  | openObject
  | closeObject
  | openArray
  | closeArray
  | colon
  | comma
  | null
  | bool (b : Bool)
  | number (n : Numeral)
  | string (s : Literal)

namespace Token

/-- Whether a character may stand between tokens. -/
def isSpace (c : Char) : Bool := c == ' ' || c == '\t' || c == '\n' || c == '\r'

/-- The digits of a fraction, if a point follows; a point without digits is refused. -/
def readFraction? : List Char → Option (List Digit × List Char)
  | '.' :: cs => if (Digit.span cs).1 = [] then none else some (Digit.span cs)
  | cs => some ([], cs)

/-- The power of ten of a number, if the letter `e` follows; a letter without digits is refused. -/
def readExponent? : List Char → Option (Int × List Char)
  | [] => some (0, [])
  | c :: cs =>
    if c = 'e' ∨ c = 'E' then
      let digits := Digit.span (Binary64.splitSign cs).2
      if digits.1 = [] then none
      else some (Binary64.signed (Binary64.splitSign cs).1 (Digit.value digits.1), digits.2)
    else some (0, c :: cs)

/-- A number without its sign: a zero or digits that do not start with one, a fraction, a power. -/
def readUnsigned? (negative : Bool) (cs : List Char) : Option (Numeral × List Char) :=
  let whole := (Digit.span cs).1
  if whole = [] ∨ (whole.head? = some .zero ∧ whole.length ≠ 1) then none
  else do
    let (fraction, cs) ← readFraction? (Digit.span cs).2
    let (exponent, cs) ← readExponent? cs
    return (⟨negative, whole, fraction, exponent⟩, cs)

/-- A number and the text behind it. -/
def readNumber? : List Char → Option (Numeral × List Char)
  | '-' :: cs => readUnsigned? true cs
  | cs => readUnsigned? false cs

/-- The token at the front of a text that does not start with a space, and the text behind it. -/
def read? : List Char → Option (Token × List Char)
  | '\x7b' :: cs => some (openObject, cs)
  | '\x7d' :: cs => some (closeObject, cs)
  | '[' :: cs => some (openArray, cs)
  | ']' :: cs => some (closeArray, cs)
  | ':' :: cs => some (colon, cs)
  | ',' :: cs => some (comma, cs)
  | 'n' :: 'u' :: 'l' :: 'l' :: cs => some (null, cs)
  | 't' :: 'r' :: 'u' :: 'e' :: cs => some (bool true, cs)
  | 'f' :: 'a' :: 'l' :: 's' :: 'e' :: cs => some (bool false, cs)
  | '"' :: cs => (Literal.read? cs).map fun (s, rest) => (string s, rest)
  | cs => (readNumber? cs).map fun (n, rest) => (number n, rest)

/-- The characters of a token. -/
def chars : Token → List Char
  | openObject => ['\x7b']
  | closeObject => ['\x7d']
  | openArray => ['[']
  | closeArray => [']']
  | colon => [':']
  | comma => [',']
  | null => ['n', 'u', 'l', 'l']
  | bool true => ['t', 'r', 'u', 'e']
  | bool false => ['f', 'a', 'l', 's', 'e']
  | number n => n.chars
  | string s => s.chars

theorem length_of_readFraction? {cs rest : List Char} {ds : List Digit}
    (h : readFraction? cs = some (ds, rest)) : rest.length ≤ cs.length := by
  unfold readFraction? at h
  split at h
  · rename_i cs
    have hspan := Digit.length_span cs
    split at h
    · simp at h
    · simp only [Option.some.injEq] at h
      simp only [h, List.length_cons] at hspan ⊢
      omega
  · simp_all

theorem length_of_readExponent? {cs rest : List Char} {e : Int}
    (h : readExponent? cs = some (e, rest)) : rest.length ≤ cs.length := by
  unfold readExponent? at h
  split at h
  · simp_all
  · rename_i c cs
    have hsign := Binary64.length_splitSign cs
    have hspan := Digit.length_span (Binary64.splitSign cs).2
    split at h
    · simp only [Option.ite_none_left_eq_some, Option.some.injEq, Prod.mk.injEq] at h
      simp only [← h.2.2, List.length_cons]
      omega
    · simp_all

theorem length_of_readUnsigned? {s : Bool} {cs rest : List Char} {n : Numeral}
    (h : readUnsigned? s cs = some (n, rest)) : rest.length < cs.length := by
  simp only [readUnsigned?] at h
  have hspan := Digit.length_span cs
  split at h
  · simp at h
  · rename_i hne
    obtain ⟨⟨ds, r⟩, hf, h⟩ := Option.bind_eq_some_iff.1 h
    obtain ⟨⟨e, r'⟩, he, h⟩ := Option.bind_eq_some_iff.1 h
    have := length_of_readFraction? hf
    have : r'.length ≤ r.length := length_of_readExponent? he
    have : 0 < (Digit.span cs).1.length := by
      apply List.length_pos_iff.2
      intro hnil
      exact hne (.inl hnil)
    simp at h
    simp only [← h.2]
    omega

theorem length_of_readNumber? {cs rest : List Char} {n : Numeral}
    (h : readNumber? cs = some (n, rest)) : rest.length < cs.length := by
  unfold readNumber? at h
  split at h
  · exact Nat.lt_succ_of_lt (length_of_readUnsigned? h)
  · exact length_of_readUnsigned? h

/-- Reading a token consumes text. -/
theorem length_of_read? {cs rest : List Char} {t : Token} (h : read? cs = some (t, rest)) :
    rest.length < cs.length := by
  unfold read? at h
  split at h
  case h_10 =>
    obtain ⟨⟨l, r⟩, hr, h⟩ := Option.map_eq_some_iff.1 h
    have := Literal.length_of_read? hr
    simp at h
    simp only [List.length_cons, ← h.2]
    omega
  case h_11 =>
    obtain ⟨⟨n, r⟩, hr, he⟩ := Option.map_eq_some_iff.1 h
    have := length_of_readNumber? hr
    simp at he
    simp only [← he.2]
    exact this
  all_goals
    simp at h
    simp [← h.2]
    try omega

/-- The tokens of a text. -/
def lex? : List Char → Option (List Token)
  | [] => some []
  | c :: cs =>
    if isSpace c then lex? cs
    else
      match _h : read? (c :: cs) with
      | none => none
      | some (t, rest) => (lex? rest).map (t :: ·)
termination_by cs => cs.length
decreasing_by
  · simp
  · exact length_of_read? _h

end Token

end TrackSieve.Json
