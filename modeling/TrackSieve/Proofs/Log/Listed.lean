import TrackSieve.Log.Settings
import TrackSieve.Proofs.Log.Placement
import TrackSieve.Proofs.Text.Blank
import TrackSieve.Proofs.Text.Pieces

/-!
# Lists of directives as texts

A level is spelled by its name, in any case, or by its digit. A directive without brackets is
spelled by a level, or by a target and a level with an equals sign between them. Such a directive
has no blanks at its ends, so every part of it is found at its position, and it is read as what it
spells.
A text that lists directives between commas is read as the list; it is read as one level only if the
list is nothing but this level.
-/

namespace TrackSieve

namespace Log

/-! ### Levels -/

namespace Level

variable {l : Level} {cs : List Char}

/-- A text spells a level: by its name in any case, or by its digit. -/
def SpelledBy (l : Level) (cs : List Char) : Prop :=
  cs.map Char.toLower = l.name.toList ∨ cs = [Char.ofNat ('0'.toNat + l.rank)]

instance (l : Level) (cs : List Char) : Decidable (l.SpelledBy cs) :=
  inferInstanceAs (Decidable (_ ∨ _))

theorem SpelledBy.ne_nil (h : l.SpelledBy cs) : cs ≠ [] := by
  rintro rfl
  revert h
  cases l <;> decide

/-- A name in any case consists of letters. -/
theorem isAlpha_of_map_toLower (h : cs.map Char.toLower = l.name.toList) {c : Char}
    (hc : c ∈ cs) : c.isAlpha := by
  have hall : l.name.toList.all Char.isAlpha := by cases l <;> decide
  exact Text.isAlpha_of_isAlpha_toLower (List.all_eq_true.1 hall _ (h ▸ List.mem_map_of_mem hc))

/-- Levels are spelled by letters and digits. -/
theorem SpelledBy.isAlphanum (h : l.SpelledBy cs) {c : Char} (hc : c ∈ cs) : c.isAlphanum := by
  rcases h with h | rfl
  · rw [Char.isAlphanum, isAlpha_of_map_toLower h hc, Bool.true_or]
  · rw [List.mem_singleton.1 hc]
    cases l <;> decide

/-- What starts with a letter is no number. -/
theorem natural?_of_isAlpha {c : Char} (h : c.isAlpha) : Digit.natural? (c :: cs) = none := by
  have hdigit : Digit.ofChar? c = none := by
    rw [Digit.ofChar?, dif_neg]
    rintro ⟨hge, hlt⟩
    have hall : ∀ n < 10, (Char.ofNat (48 + n)).isAlpha = false := by decide
    have hc := hall (c.toNat - 48) (by omega)
    rw [Nat.add_sub_cancel' hge, Char.ofNat_toNat, h] at hc
    cases hc
  have hplus : c ≠ '+' := by
    rintro rfl
    cases h
  simp [Digit.natural?, hplus, Digit.span, hdigit]

/-- A level is read from every text that spells it. -/
theorem SpelledBy.ofChars? (h : l.SpelledBy cs) : ofChars? cs = some l := by
  rcases h with h | rfl
  · have hnumber : Digit.natural? cs = none := by
      cases cs with
      | nil => rfl
      | cons c cs => exact natural?_of_isAlpha (isAlpha_of_map_toLower h List.mem_cons_self)
    simp only [Level.ofChars?, hnumber, h]
    cases l <;> decide
  · cases l <;> decide

end Level

/-! ### Directives -/

namespace Directive

variable {d : Directive} {l : Level} {c : Char} {name cs : List Char}

/-- The name of a target as it may stand in a directive: it starts with what may start one, and has
neither of the marks that end it. -/
def IsTargetName (name : String) : Prop :=
  (∃ c ∈ name.toList.head?, mayStart c) ∧ ∀ c ∈ name.toList, c ≠ '=' ∧ c ≠ '['

/-- A text spells a directive without brackets: a plain one by its level, and one for targets by
their name, an equals sign and its level. -/
inductive SpelledBy : Directive → List Char → Prop
  | plain {l : Level} {cs : List Char} (h : l.SpelledBy cs) : SpelledBy (.plain l) cs
  | ofTarget {name : String} {l : Level} {cs : List Char} (hname : IsTargetName name)
    (h : l.SpelledBy cs) : SpelledBy (.ofTarget name l) (name.toList ++ '=' :: cs)

theorem mayStart_of_isAlphanum (h : c.isAlphanum) : mayStart c := by
  rw [Char.isAlphanum, Bool.or_eq_true] at h
  rcases h with h | h
  · simp [mayStart, Text.isLetter_of_isAlpha h]
  · simp [mayStart, Text.isNumber_of_isDigit h]

/-- Letters, digits and underscores make up names of targets. -/
theorem IsTargetName.of_all {name : String} (hne : name.toList ≠ [])
    (hall : name.toList.all fun c => c == '_' || c.isAlphanum) : IsTargetName name := by
  rw [List.all_eq_true] at hall
  obtain ⟨c, cs, hcs⟩ := List.exists_cons_of_ne_nil hne
  refine ⟨⟨c, by rw [hcs]; rfl, ?_⟩, fun c hc => ?_⟩
  · have hc := hall c (hcs ▸ List.mem_cons_self)
    rw [Bool.or_eq_true] at hc
    rcases hc with hc | hc
    · simp [mayStart, beq_iff_eq.1 hc]
    · exact mayStart_of_isAlphanum hc
  · have hc := hall c hc
    constructor <;> rintro rfl <;> cases hc

/-- No directive starts with a blank. -/
theorem isBlank_of_mayStart (h : mayStart c) : Text.isBlank c = false := by
  have hall : ∀ n ∈ [0x9, 0xa, 0xb, 0xc, 0xd, 0x20, 0x85, 0xa0, 0x1680, 0x2000, 0x2001, 0x2002,
      0x2003, 0x2004, 0x2005, 0x2006, 0x2007, 0x2008, 0x2009, 0x200a, 0x2028, 0x2029, 0x202f,
      0x205f, 0x3000], mayStart (Char.ofNat n) = false := by decide +kernel
  by_contra hblank
  rw [Bool.not_eq_false] at hblank
  have hc := hall c.toNat ?_
  · rw [Char.ofNat_toNat, h] at hc
    cases hc
  · simp only [Text.isBlank, Bool.or_eq_true, Bool.and_eq_true, decide_eq_true_eq,
      beq_iff_eq] at hblank
    simp only [List.mem_cons, List.not_mem_nil, or_false]
    omega

theorem isBlank_of_spelledBy_level (h : l.SpelledBy cs) (hc : c ∈ cs) : Text.isBlank c = false :=
  isBlank_of_mayStart (mayStart_of_isAlphanum (h.isAlphanum hc))

/-- A level has neither of the marks that end a target. -/
theorem ne_of_spelledBy_level (h : l.SpelledBy cs) (hc : c ∈ cs) : c ≠ '=' ∧ c ≠ '[' := by
  have halnum := h.isAlphanum hc
  constructor <;> rintro rfl <;> cases halnum

/-- What spells a directive starts with what may start one, and ends with no blank. -/
theorem SpelledBy.ends (h : d.SpelledBy cs) :
    (∃ c ∈ cs.head?, mayStart c) ∧ ∀ c ∈ cs.getLast?, Text.isBlank c = false := by
  cases h with
  | plain h =>
    obtain ⟨c, cs, rfl⟩ := List.exists_cons_of_ne_nil h.ne_nil
    refine ⟨⟨c, rfl, mayStart_of_isAlphanum (h.isAlphanum List.mem_cons_self)⟩, fun d hd => ?_⟩
    exact isBlank_of_spelledBy_level h (List.mem_of_getLast? hd)
  | @ofTarget name l cs hname h =>
    obtain ⟨c, hc, hstart⟩ := hname.1
    refine ⟨⟨c, by rw [List.head?_append, hc]; rfl, hstart⟩, fun d hd => ?_⟩
    rw [List.getLast?_append_of_ne_nil _ (List.cons_ne_nil _ _),
      List.getLast?_cons_of_ne_nil h.ne_nil] at hd
    exact isBlank_of_spelledBy_level h (List.mem_of_getLast? hd)

theorem SpelledBy.ne_nil (h : d.SpelledBy cs) : cs ≠ [] := by
  rintro rfl
  obtain ⟨⟨c, hc, -⟩, -⟩ := h.ends
  cases hc

theorem SpelledBy.trim_eq (h : d.SpelledBy cs) : Text.trim cs = cs := by
  obtain ⟨⟨c, hc, hstart⟩, hlast⟩ := h.ends
  refine Text.trim_eq_self (fun b hb => ?_) hlast
  rw [Option.mem_unique hb hc]
  exact isBlank_of_mayStart hstart

/-- A level stands behind the equals sign of a target. -/
theorem readLevel?_of_spelledBy (h : l.SpelledBy cs) :
    readLevel? (name ++ '=' :: cs) (Text.byteCount name) ('=' :: cs) = some l := by
  have hposition : Text.byteCount name + 1 = Text.byteCount (name ++ ['=']) := by
    rw [Text.byteCount_append_singleton]
    rfl
  rw [readLevel?, hposition, List.append_cons name '=' cs, Text.dropBytes?_byteCount_append,
    Option.bind_some, levelOfChars?, if_neg h.ne_nil, h.ofChars?]

/-- A directive is read from every text that spells it. -/
theorem SpelledBy.ofChars? (h : d.SpelledBy cs) : ofChars? cs = some d := by
  obtain ⟨⟨c, hc, hstart⟩, -⟩ := h.ends
  obtain ⟨cs, rfl⟩ := List.head?_eq_some_iff.1 hc
  have hbracket : c ≠ '[' := by
    rintro rfl
    revert hstart
    decide
  rw [Directive.ofChars?, h.trim_eq]
  split
  · contradiction
  · rename_i heq
    cases heq
    exact absurd rfl hbracket
  · rename_i c' cs' _ heq
    cases heq
    rw [if_neg (not_not.2 hstart)]
    generalize hwhole : c :: cs = whole at h
    cases h with
    | plain h =>
      have hend : whole.dropWhile (fun c => c ≠ '=' ∧ c ≠ '[') = [] :=
        List.dropWhile_eq_nil_iff.2 fun c hc => decide_eq_true (ne_of_spelledBy_level h hc)
      simp only [hend, h.ofChars?]
    | @ofTarget name l cs hname h =>
      have hall : ∀ c ∈ name.toList, decide (c ≠ '=' ∧ c ≠ '[') = true :=
        fun c hc => decide_eq_true (hname.2 c hc)
      have htake : (name.toList ++ '=' :: cs).takeWhile (fun c => c ≠ '=' ∧ c ≠ '[') =
          name.toList := by
        rw [List.takeWhile_append_of_pos hall, List.takeWhile_cons_of_neg (by decide),
          List.append_nil]
      have hdrop : (name.toList ++ '=' :: cs).dropWhile (fun c => c ≠ '=' ∧ c ≠ '[') =
          '=' :: cs := by
        rw [List.dropWhile_append_of_pos hall, List.dropWhile_cons_of_neg (by decide)]
      have hcut : Text.cut? 0 (Text.byteCount name.toList) (name.toList ++ '=' :: cs) =
          some name.toList := by
        simpa [Text.byteCount] using Text.cut?_append [] name.toList ('=' :: cs)
      simp only [htake, hdrop, hcut, readLevel?_of_spelledBy h, Option.map_some,
        Option.bind_some, String.ofList_toList]

/-- Without brackets a directive decides about entries, and about no spans. -/
theorem SpelledBy.kind (h : d.SpelledBy cs) : d.ForEntries ∧ ¬d.ForSpans := by
  cases h <;> exact ⟨⟨rfl, nofun⟩, not_or.2 ⟨not_not.2 rfl, not_not.2 rfl⟩⟩

end Directive

/-! ### Lists -/

namespace Directives

variable {s : String} {ds : List Directive}

/-- A text lists directives: each piece between commas spells one. -/
def Listed (s : String) (ds : List Directive) : Prop :=
  List.Forall₂ Directive.SpelledBy ds (Text.pieces ',' s.toList)

theorem Listed.ne_nil (h : Listed s ds) : ds ≠ [] := by
  rintro rfl
  exact Text.pieces_ne_nil _ _ (List.forall₂_nil_left_iff.1 h)

/-- Every piece is read as what it spells. -/
theorem filterMap_ofChars?_of_forall₂ {pieces : List (List Char)}
    (h : List.Forall₂ Directive.SpelledBy ds pieces) :
    pieces.filterMap Directive.ofChars? = ds := by
  induction h with
  | nil => rfl
  | cons h _ ih => rw [List.filterMap_cons_some h.ofChars?, ih]

/-- A text that lists directives is read as the list. -/
theorem Listed.ofText (h : Listed s ds) : ofText s = ⟨arrange ds, []⟩ := by
  have hkinds : ∀ d ∈ ds, d.ForEntries ∧ ¬d.ForSpans :=
    ((List.forall₂_and_left ds _).1 (h.imp fun d cs hcs => ⟨hcs.kind, hcs⟩)).1
  have hentries : ds.filter (fun d => d.ForEntries) = ds :=
    List.filter_eq_self.2 fun d hd => decide_eq_true (hkinds d hd).1
  have hspans : ds.filter (fun d => d.ForSpans) = [] :=
    List.filter_eq_nil_iff.2 fun d hd => by simpa using (hkinds d hd).2
  rw [Directives.ofText, filterMap_ofChars?_of_forall₂ h, ofList, hentries, hspans]
  · rfl
  · exact h.ne_nil

theorem Listed.entries_plain {l : Level} (h : Listed s [.plain l]) :
    (Directives.ofText s).entries = [.plain l] := by
  rw [h.ofText]
  rfl

/-- A text that lists directives neither is empty nor ends with a blank, and nor does any piece. -/
theorem ends_of_mem_of_forall₂ {pieces : List (List Char)}
    (h : List.Forall₂ Directive.SpelledBy ds pieces) :
    ∀ cs ∈ pieces, cs ≠ [] ∧ ∀ c ∈ cs.getLast?, Text.isBlank c = false :=
  ((List.forall₂_and_left pieces _).1
    (h.flip.imp fun _ _ hcs => ⟨⟨hcs.ne_nil, hcs.ends.2⟩, hcs⟩)).1

end Directives

/-- A level is a list by itself. -/
theorem Level.SpelledBy.listed {l : Level} {s : String} (h : l.SpelledBy s.toList) :
    Directives.Listed s [.plain l] := by
  have hcomma : ',' ∉ s.toList := by
    intro hmem
    cases h.isAlphanum hmem
  rw [Directives.Listed, Text.pieces_of_not_mem hcomma]
  exact .cons (.plain h) .nil

end Log

end TrackSieve
