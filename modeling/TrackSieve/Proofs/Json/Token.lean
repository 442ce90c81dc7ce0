import TrackSieve.Json.Token
import TrackSieve.Proofs.Decimal.Reader
import TrackSieve.Proofs.Json.Literal

/-!
# Written tokens read back

Every token but a number ends where its own characters end. A number is read as far as it goes, so
what follows it must not be a digit, a point or the letter of a power of ten. A numeral is spelled
as JSON demands if its whole part is not empty and does not start with a needless zero.
-/

namespace TrackSieve

open Binary64

/-- A numeral that JSON admits: it has digits before the point, the first of them not a zero unless
it is the only one. -/
def Numeral.Spellable (n : Numeral) : Prop :=
  n.whole ≠ [] ∧ (n.whole.head? = some .zero → n.whole.length = 1)

namespace Json.Token

/-- A text that does not continue a number that stands in front of it. -/
def Boundary (rest : List Char) : Prop :=
  ∀ c ∈ rest.head?, Digit.ofChar? c = none ∧ c ≠ '.' ∧ c ≠ 'e' ∧ c ≠ 'E'

theorem boundary_nil : Boundary [] := by simp [Boundary]

/-! ### Numbers -/

theorem char_ne_minus (d : Digit) : d.char ≠ '-' := by revert d; decide

theorem isSpace_char (d : Digit) : isSpace d.char = false := by revert d; decide

theorem readExponent?_append (e : Int) {rest : List Char} (h : Boundary rest) :
    readExponent? ((if e = 0 then [] else 'e' :: Numeral.intChars e) ++ rest) = some (e, rest) := by
  by_cases he : e = 0
  · -- a zero power is not written, and what follows must not look like one
    subst he
    cases rest with
    | nil => rfl
    | cons c cs =>
      obtain ⟨-, -, hlower, hupper⟩ := h c rfl
      simp [readExponent?, hlower, hupper]
  · have hspan := Digit.span_map_char_append (Digit.ofNat e.natAbs) rest fun c hc => (h c hc).1
    simp only [if_neg he, List.cons_append, readExponent?, true_or, if_true,
      splitSign_intChars_append, hspan, if_neg (Digit.ofNat_ne_nil _), Digit.value_ofNat,
      signed_natAbs]

theorem readFraction?_append (ds : List Digit) {rest : List Char}
    (h : ∀ c ∈ rest.head?, Digit.ofChar? c = none ∧ c ≠ '.') :
    readFraction? ((if ds.isEmpty then [] else '.' :: ds.map Digit.char) ++ rest) =
      some (ds, rest) := by
  cases ds with
  | nil =>
    cases rest with
    | nil => rfl
    | cons c cs => simp [readFraction?, (h c rfl).2]
  | cons d ds =>
    have hspan := Digit.span_map_char_append (d :: ds) rest fun c hc => (h c hc).1
    simp only [List.isEmpty_cons, Bool.false_eq_true, if_false, List.cons_append, readFraction?,
      hspan, List.cons_ne_nil]

theorem readUnsigned?_append (negative : Bool) {n : Numeral} (hn : n.Spellable) {rest : List Char}
    (h : Boundary rest) :
    readUnsigned? negative (n.whole.map Digit.char ++
        ((if n.fraction.isEmpty then [] else '.' :: n.fraction.map Digit.char) ++
          ((if n.exponent = 0 then [] else 'e' :: Numeral.intChars n.exponent) ++ rest))) =
      some ({ n with negative }, rest) := by
  have hexponent := Numeral.head?_exponent_append n.exponent
    fun c hc => ⟨(h c hc).1, (h c hc).2.1⟩
  have hspan := Digit.span_map_char_append n.whole _
    (Numeral.head?_fraction_append n.fraction fun c hc => (hexponent c hc).1)
  have hwhole : ¬(n.whole = [] ∨ n.whole.head? = some .zero ∧ n.whole.length ≠ 1) := by
    rintro (hnil | ⟨hzero, hlong⟩)
    · exact hn.1 hnil
    · exact hlong (hn.2 hzero)
  simp only [readUnsigned?, hspan, if_neg hwhole, readFraction?_append n.fraction hexponent,
    readExponent?_append n.exponent h, Option.bind_eq_bind, Option.bind_some, Option.pure_def]

/-- **A number is read back** in front of a text that does not continue it. -/
theorem readNumber?_append {n : Numeral} (hn : n.Spellable) {rest : List Char} (h : Boundary rest) :
    readNumber? (n.chars ++ rest) = some (n, rest) := by
  have hread := readUnsigned?_append n.negative hn h
  obtain ⟨negative, whole, fraction, exponent⟩ := n
  cases negative with
  | true =>
    simpa only [Numeral.chars, if_true, List.append_assoc, List.cons_append, List.nil_append,
      readNumber?] using hread
  | false =>
    -- a digit stands first, so no sign is taken off
    obtain ⟨d, ds, rfl⟩ := List.exists_cons_of_ne_nil hn.1
    simp only [Numeral.chars, Bool.false_eq_true, if_false, List.append_assoc, List.nil_append,
      List.map_cons, List.cons_append] at hread ⊢
    rw [readNumber?]
    · exact hread
    · rintro cs heq
      exact char_ne_minus d (List.cons.inj heq).1

/-! ### Tokens -/

/-- A token that JSON admits: its numeral, if it is a number, is spellable. -/
def Spellable : Token → Prop
  | number n => n.Spellable
  | _ => True

/-- A text that does not continue a token that stands in front of it. -/
def Ends (t : Token) (rest : List Char) : Prop := ∀ n, t = number n → Boundary rest

/-- What starts with a digit or a minus is read as a number. -/
theorem read?_eq_readNumber? {c : Char} (h : c = '-' ∨ ∃ d : Digit, c = d.char) (cs : List Char) :
    read? (c :: cs) = (readNumber? (c :: cs)).map fun p => (number p.1, p.2) := by
  rcases h with rfl | ⟨d, rfl⟩
  · rfl
  · fin_cases d <;> rfl

theorem exists_chars_eq_cons {n : Numeral} (hn : n.Spellable) :
    ∃ c cs, n.chars = c :: cs ∧ (c = '-' ∨ ∃ d : Digit, c = d.char) := by
  obtain ⟨d, ds, hd⟩ := List.exists_cons_of_ne_nil hn.1
  simp only [Numeral.chars, hd]
  cases n.negative with
  | true => exact ⟨_, _, rfl, .inl rfl⟩
  | false => exact ⟨_, _, rfl, .inr ⟨d, rfl⟩⟩

/-- **A token is read back** in front of a text that does not continue it, and it does not start
with a space. -/
theorem read?_chars_append {t : Token} (ht : t.Spellable) {rest : List Char} (h : t.Ends rest) :
    ∃ c cs, t.chars ++ rest = c :: cs ∧ isSpace c = false ∧ read? (c :: cs) = some (t, rest) := by
  cases t with
  | number n =>
    obtain ⟨c, cs, hcs, hc⟩ := exists_chars_eq_cons ht
    have happend : n.chars ++ rest = c :: (cs ++ rest) := by rw [hcs, List.cons_append]
    refine ⟨c, cs ++ rest, happend, ?_, ?_⟩
    · rcases hc with rfl | ⟨d, rfl⟩
      · rfl
      · exact isSpace_char d
    · rw [read?_eq_readNumber? hc, ← happend, readNumber?_append ht (h n rfl)]
      rfl
  | string l =>
    obtain ⟨cs, hcs, hread⟩ := l.read?_chars_append rest
    refine ⟨'"', cs, hcs, rfl, ?_⟩
    rw [read?, hread]
    rfl
  | bool b => cases b <;> exact ⟨_, _, rfl, rfl, rfl⟩
  | _ => exact ⟨_, _, rfl, rfl, rfl⟩

/-- A token at the start of a text is the first of its tokens. -/
theorem lex?_of_read? {t : Token} {c : Char} {cs rest : List Char} (hspace : isSpace c = false)
    (hread : read? (c :: cs) = some (t, rest)) : lex? (c :: cs) = (lex? rest).map (t :: ·) := by
  rw [lex?, hspace, if_neg Bool.false_ne_true]
  split
  · rename_i hnone
    rw [hread] at hnone
    cases hnone
  · rename_i t' rest' hsome
    rw [hread] at hsome
    cases hsome
    rfl

theorem lex?_chars_append {t : Token} (ht : t.Spellable) {rest : List Char} (h : t.Ends rest) :
    lex? (t.chars ++ rest) = (lex? rest).map (t :: ·) := by
  obtain ⟨c, cs, hcs, hspace, hread⟩ := read?_chars_append ht h
  rw [hcs, lex?_of_read? hspace hread]

end Json.Token

end TrackSieve
