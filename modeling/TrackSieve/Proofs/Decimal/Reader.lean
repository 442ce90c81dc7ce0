import TrackSieve.Decimal.Reader
import TrackSieve.Proofs.Binary64.Order
import TrackSieve.Proofs.Decimal.Layout
import TrackSieve.Text.Blank

/-!
# Written doubles read from text

The characters of a numeral fall into a sign, the digits before the point, the digits behind it and
a power of ten. Each part ends where a character stands that cannot go on with it, so every part is
read as it was written. No word for infinity or NaN starts with a digit. So a reader gets back the
double from whatever any layout writes for it.
-/

namespace TrackSieve

namespace Binary64

/-! ### Signs and powers of ten -/

theorem splitSign_char (d : Digit) (cs : List Char) :
    splitSign (d.char :: cs) = (false, d.char :: cs) := by
  fin_cases d <;> rfl

theorem splitSign_intChars_append (e : Int) (rest : List Char) :
    splitSign (Numeral.intChars e ++ rest) =
      (decide (e < 0), (Digit.ofNat e.natAbs).map Digit.char ++ rest) := by
  by_cases he : e < 0
  · simp [Numeral.intChars, he, splitSign]
  · obtain ⟨d, ds, hd⟩ := List.exists_cons_of_ne_nil (Digit.ofNat_ne_nil e.natAbs)
    simp only [Numeral.intChars, if_neg he, hd, List.nil_append, List.map_cons, List.cons_append,
      splitSign_char, decide_eq_false he]

theorem signed_natAbs (e : Int) : signed (decide (e < 0)) e.natAbs = e := by
  simp only [signed, decide_eq_true_eq]
  split <;> omega

end Binary64

namespace Numeral

/-- A numeral is written without blanks. -/
theorem isBlank_of_mem_chars {n : Numeral} {c : Char} (hc : c ∈ n.chars) :
    Text.isBlank c = false := by
  have hdigit : ∀ d : Digit, Text.isBlank d.char = false := by decide
  simp only [chars, intChars, List.mem_append, List.mem_ite_nil_left, List.mem_ite_nil_right,
    List.mem_cons, List.not_mem_nil, or_false, List.mem_map] at hc
  rcases hc with ((⟨-, rfl⟩ | ⟨d, -, rfl⟩) | ⟨-, rfl | ⟨d, -, rfl⟩⟩) |
    ⟨-, rfl | ⟨-, rfl⟩ | ⟨d, -, rfl⟩⟩
  · decide
  · exact hdigit d
  · decide
  · exact hdigit d
  · decide
  · decide
  · exact hdigit d

/-- What stands behind the whole part of a numeral continues no digits. -/
theorem head?_fraction_append (ds : List Digit) {rest : List Char}
    (h : ∀ c ∈ rest.head?, Digit.ofChar? c = none) :
    ∀ c ∈ ((if ds.isEmpty then [] else '.' :: ds.map Digit.char) ++ rest).head?,
      Digit.ofChar? c = none := by
  cases ds with
  | nil => exact h
  | cons d ds => simpa using (by decide : Digit.ofChar? '.' = none)

/-- What stands behind the digits of a numeral continues neither digits nor a fraction. -/
theorem head?_exponent_append (e : Int) {rest : List Char}
    (h : ∀ c ∈ rest.head?, Digit.ofChar? c = none ∧ c ≠ '.') :
    ∀ c ∈ ((if e = 0 then [] else 'e' :: intChars e) ++ rest).head?,
      Digit.ofChar? c = none ∧ c ≠ '.' := by
  by_cases he : e = 0
  · simpa only [if_pos he, List.nil_append] using h
  · simpa [he] using (by decide : Digit.ofChar? 'e' = none)

end Numeral

namespace Binary64

theorem readExponent?_chars (e : Int) :
    readExponent? (if e = 0 then [] else 'e' :: Numeral.intChars e) = some e := by
  by_cases he : e = 0
  · rw [if_pos he, he]
    rfl
  · have hsign := splitSign_intChars_append e []
    have hspan := Digit.span_map_char_append (Digit.ofNat e.natAbs) [] nofun
    rw [List.append_nil] at hsign
    simp only [if_neg he, readExponent?, hsign, hspan, true_or, ne_eq, Digit.ofNat_ne_nil,
      not_false_eq_true, and_self, if_true, Digit.value_ofNat, signed_natAbs]

/-! ### Numerals -/

theorem splitFraction_append (ds : List Digit) {rest : List Char}
    (h : ∀ c ∈ rest.head?, Digit.ofChar? c = none ∧ c ≠ '.') :
    splitFraction ((if ds.isEmpty then [] else '.' :: ds.map Digit.char) ++ rest) =
      (ds, rest) := by
  cases ds with
  | nil =>
    cases rest with
    | nil => rfl
    | cons c cs => simp [splitFraction, (h c rfl).2]
  | cons d ds =>
    have hspan := Digit.span_map_char_append (d :: ds) rest fun c hc => (h c hc).1
    simp only [List.isEmpty_cons, Bool.false_eq_true, if_false, List.cons_append, splitFraction]
    exact hspan

/-- A numeral with digits before its point is read back, whatever its sign. -/
theorem readNumeral?_append (negative : Bool) {n : Numeral} (hn : n.whole ≠ []) :
    readNumeral? negative (n.whole.map Digit.char ++
        ((if n.fraction.isEmpty then [] else '.' :: n.fraction.map Digit.char) ++
          (if n.exponent = 0 then [] else 'e' :: Numeral.intChars n.exponent))) =
      some { n with negative } := by
  have hexponent := @Numeral.head?_exponent_append n.exponent [] nofun
  rw [List.append_nil] at hexponent
  have hspan := Digit.span_map_char_append n.whole _
    (Numeral.head?_fraction_append n.fraction fun c hc => (hexponent c hc).1)
  have hfraction := splitFraction_append n.fraction hexponent
  have hnot : ¬(n.whole = [] ∧ n.fraction = []) := fun h => hn h.1
  simp only [readNumeral?, hspan, hfraction, if_neg hnot, readExponent?_chars, Option.map_some]

/-- What starts with a digit is none of the words for infinity and NaN. -/
theorem readUnsigned?_char_cons (negative : Bool) (d : Digit) (cs : List Char) :
    readUnsigned? negative (d.char :: cs) =
      (readNumeral? negative (d.char :: cs)).map Numeral.toBinary64 := by
  have hi : d.char.toLower ≠ 'i' := by revert d; decide
  have hn : d.char.toLower ≠ 'n' := by revert d; decide
  have hinf : ¬(d.char.toLower :: cs.map Char.toLower = ['i', 'n', 'f'] ∨
      d.char.toLower :: cs.map Char.toLower = ['i', 'n', 'f', 'i', 'n', 'i', 't', 'y']) := by
    rintro (h | h) <;> exact hi (List.cons.inj h).1
  have hnan : ¬d.char.toLower :: cs.map Char.toLower = ['n', 'a', 'n'] :=
    fun h => hn (List.cons.inj h).1
  rw [readUnsigned?]
  exact (if_neg hinf).trans (if_neg hnan)

/-- **A numeral is read as the double that it denotes**, if it has digits before its point. -/
theorem ofChars?_chars {n : Numeral} (hn : n.whole ≠ []) :
    ofChars? n.chars = some n.toBinary64 := by
  have hread := readNumeral?_append n.negative hn
  obtain ⟨negative, whole, fraction, exponent⟩ := n
  obtain ⟨d, ds, rfl⟩ := List.exists_cons_of_ne_nil hn
  simp only [List.map_cons, List.cons_append] at hread
  cases negative with
  | true =>
    simp only [ofChars?, Numeral.chars, if_true, List.map_cons, List.cons_append, List.nil_append,
      List.append_assoc, splitSign, readUnsigned?_char_cons, hread, Option.map_some]
  | false =>
    simp only [ofChars?, Numeral.chars, Bool.false_eq_true, if_false, List.map_cons,
      List.cons_append, List.nil_append, List.append_assoc, splitSign_char,
      readUnsigned?_char_cons, hread, Option.map_some]

end Binary64

namespace Layout

variable (l : Layout)

theorem whole_place_ne_nil (negative : Bool) {digits : List Digit} (hd : digits ≠ [])
    (point : Int) : (l.place negative digits point).whole ≠ [] := by
  unfold place
  split
  · dsimp only
    split
    · exact List.cons_ne_nil _ _
    · rename_i hne
      rwa [List.isEmpty_iff] at hne
  · exact mt List.take_eq_nil_iff.1 (by simp [hd])

theorem whole_numeral_ne_nil (x : Binary64) : (l.numeral x).whole ≠ [] := by
  unfold numeral
  split
  · exact l.whole_place_ne_nil _ (List.cons_ne_nil _ _) _
  · exact l.whole_place_ne_nil _ (Digit.ofNat_ne_nil _) _

/-- **The text of a double is read back**, in every layout and bit by bit, unless the double is no
number. -/
theorem ofText?_text {x : Binary64} (h : ¬x.IsNaN) : Binary64.ofText? (l.text x) = some x := by
  by_cases hx : x.IsFinite
  · rw [text, if_neg h, if_pos hx, Numeral.text, Binary64.ofText?, String.toList_ofList,
      Binary64.ofChars?_chars (l.whole_numeral_ne_nil x), l.toBinary64_numeral hx]
  · obtain ⟨negative, rfl⟩ := (Binary64.isNaN_or_eq_infinityOf hx).resolve_left h
    rw [text, if_neg h, if_neg hx]
    cases negative <;> decide

/-- No layout writes a blank. -/
theorem isBlank_of_mem_text {x : Binary64} {c : Char} (hc : c ∈ (l.text x).toList) :
    Text.isBlank c = false := by
  have hword : ∀ w : String, w.toList.all (fun d => !Text.isBlank d) = true → c ∈ w.toList →
      Text.isBlank c = false := by
    intro w hall hc
    simpa using List.all_eq_true.1 hall c hc
  unfold text at hc
  split_ifs at hc
  · exact hword "NaN" (by decide) hc
  · rw [Numeral.text, String.toList_ofList] at hc
    exact Numeral.isBlank_of_mem_chars hc
  · exact hword "-inf" (by decide) hc
  · exact hword "inf" (by decide) hc

end Layout

end TrackSieve
