import TrackSieve.Filter.Refusal
import TrackSieve.Proofs.Json.Record
import TrackSieve.Proofs.Measure.Setting

/-!
# Names from outside

Names of measurement systems and of aspects come from settings and from stored data. A setting may
have blanks around the name of a system and its letters in any case; the name of an aspect, and
every name in stored data, has to be exact. So what stored data may call a system is a setting that
selects it, and aspects are called alike by both. A refusal shows the text as it was given.

The names are spelled after the identifiers in diagnostics: the words of an identifier, in small
letters for an aspect and in capital letters for a system, with underscores between them.
-/

namespace TrackSieve

/-! ### Names spelled after identifiers -/

/-- The words of an identifier in small letters, with underscores between them. Every word starts
with a capital letter. -/
def Text.snakeCase : List Char → List Char
  | [] => []
  | c :: cs =>
    c.toLower :: cs.flatMap fun d => if d.isUpper then ['_', d.toLower] else [d.toLower]

theorem Aspect.name_eq_snakeCase (a : Aspect) :
    a.name.toList = Text.snakeCase a.identifier.toList := by
  cases a <;> decide

theorem MeasurementSystem.name_eq_snakeCase (m : MeasurementSystem) :
    m.name.toList = (Text.snakeCase m.identifier.toList).map Char.toUpper := by
  cases m <;> decide

/-! ### Refusals -/

namespace MeasurementSystem

variable {s : String} {m : MeasurementSystem} {e : Refusal}

theorem ofSetting_eq_ok_iff : ofSetting s = .ok m ↔ m.SpelledBy s := by
  rw [← ofSetting?_eq_some_iff, ofSetting]
  cases ofSetting? s <;> simp

theorem ofSetting_eq_error_iff :
    ofSetting s = .error e ↔ e = .unknownSystem s ∧ ∀ m : MeasurementSystem, ¬m.SpelledBy s := by
  simp only [← ofSetting?_eq_some_iff, ofSetting]
  cases ofSetting? s <;> simp [eq_comm]

end MeasurementSystem

namespace Aspect

variable {s : String} {a : Aspect} {e : Refusal}

theorem ofName_eq_ok_iff : ofName s = .ok a ↔ s = a.name := by
  rw [← ofName?_eq_some_iff, ofName]
  cases ofName? s <;> simp

theorem ofName_eq_error_iff :
    ofName s = .error e ↔ e = .unknownAspect s ∧ ∀ a : Aspect, s ≠ a.name := by
  simp only [ne_eq, ← ofName?_eq_some_iff, ofName]
  cases ofName? s <;> simp [eq_comm]

end Aspect

/-! ### Names in stored data -/

/-- A document is a string and nothing else, and it denotes a text. -/
def Json.Quotes (document s : String) : Prop := parse? document = some (.ofText s)

theorem Json.quotes_write (s : String) : Quotes (ofText s).write s :=
  parse?_write (spellable_ofText s)

/-- A literal by itself is such a document, whichever of its characters are escaped. -/
theorem Json.Quotes.of_read? {document s : String} {cs : List Char}
    (hdocument : document.toList = '"' :: cs) (h : Literal.read? cs = some (some s, [])) :
    Quotes document s := by
  have hread : Token.read? ('"' :: cs) = some (.string (some s), []) := by simp [Token.read?, h]
  rw [Quotes, parse?, hdocument, Token.lex?_of_read? rfl hread, Token.lex?]
  rfl

/-- A choice is read from a string by the text that the string denotes. -/
theorem Json.Quotes.bind_choice? {α : Type} {document s : String} (h : Quotes document s)
    (ofName? : String → Option α) : (parse? document).bind (choice? ofName?) = ofName? s := by
  rw [h, Option.bind_some, choice?_ofText]

/-- **Names are read exactly.** For every text: (a) it selects a measurement system as a setting
exactly if it spells its name in some case, with blanks on both sides; it is refused, and shown as
it was, exactly if it spells no name; it spells one name at most, and none if it has a character
that is neither of ASCII nor a blank. (b) It is read as an aspect exactly if it is the name of the
aspect, and refused, and shown as it was, exactly if it is no name. (c) There is a document that is
a string and denotes the text. From each such document an aspect is read exactly if it is read from
the text itself, and a system exactly if the text is its name; such a text selects the system as a
setting too. (d) The names are the ones that are spelled after the identifiers. -/
theorem names_read_exactly (s : String) :
    ((∀ m, MeasurementSystem.ofSetting s = .ok m ↔ m.SpelledBy s) ∧
      (∀ e, MeasurementSystem.ofSetting s = .error e ↔
        e = .unknownSystem s ∧ ∀ m : MeasurementSystem, ¬m.SpelledBy s) ∧
      (∀ m m' : MeasurementSystem, m.SpelledBy s → m'.SpelledBy s → m = m') ∧
      ((∃ c ∈ s.toList, Text.isBlank c = false ∧ 0x80 ≤ c.toNat) →
        ∀ m : MeasurementSystem, ¬m.SpelledBy s)) ∧
    ((∀ a, Aspect.ofName s = .ok a ↔ s = a.name) ∧
      ∀ e, Aspect.ofName s = .error e ↔ e = .unknownAspect s ∧ ∀ a : Aspect, s ≠ a.name) ∧
    ((∃ document, Json.Quotes document s) ∧ ∀ document, Json.Quotes document s →
      (∀ a, (Json.parse? document).bind (Json.choice? Aspect.ofName?) = some a ↔
        Aspect.ofName s = .ok a) ∧
      ∀ m, ((Json.parse? document).bind (Json.choice? MeasurementSystem.ofName?) = some m ↔
        s = m.name) ∧ (s = m.name → MeasurementSystem.ofSetting s = .ok m)) ∧
    (∀ a : Aspect, a.name.toList = Text.snakeCase a.identifier.toList) ∧
      ∀ m : MeasurementSystem,
        m.name.toList = (Text.snakeCase m.identifier.toList).map Char.toUpper := by
  refine ⟨⟨fun _ => MeasurementSystem.ofSetting_eq_ok_iff,
      fun _ => MeasurementSystem.ofSetting_eq_error_iff, fun _ _ h h' => h.unique h', ?_⟩,
    ⟨fun _ => Aspect.ofName_eq_ok_iff, fun _ => Aspect.ofName_eq_error_iff⟩,
    ⟨⟨_, Json.quotes_write s⟩, ?_⟩, Aspect.name_eq_snakeCase,
    MeasurementSystem.name_eq_snakeCase⟩
  · rintro ⟨c, hc, hblank, hascii⟩ m
    exact MeasurementSystem.not_spelledBy_of_mem hc hblank hascii
  · intro document hquotes
    refine ⟨fun a => ?_, fun m => ⟨?_, ?_⟩⟩
    · rw [hquotes.bind_choice?, Aspect.ofName?_eq_some_iff, Aspect.ofName_eq_ok_iff]
    · rw [hquotes.bind_choice?, MeasurementSystem.ofName?_eq_some_iff]
    · rintro rfl
      rw [MeasurementSystem.ofSetting_eq_ok_iff, ← MeasurementSystem.ofSetting?_eq_some_iff,
        MeasurementSystem.ofSetting?_name]

/-- A setting between two kinds of blanks; one with the long letter that a full folding of case
takes for an `S`; and a document that writes a letter of its text as an escape. -/
theorem names_read_exactly_spellings :
    let setting := "\u3000Miles_and_FEET\t"
    let folded := "MILE\u017f_AND_FEET"
    let document := "\"\\u006cength\""
    MeasurementSystem.ofSetting setting = .ok .milesAndFeet ∧
      MeasurementSystem.ofSetting folded = .error (.unknownSystem folded) ∧
      (Json.parse? document).bind (Json.choice? Aspect.ofName?) = some .length := by
  intro setting folded document
  obtain ⟨⟨hok, -, -, -⟩, -⟩ := names_read_exactly setting
  obtain ⟨⟨-, herror, -, hnone⟩, -⟩ := names_read_exactly folded
  obtain ⟨-, ⟨haspect, -⟩, ⟨-, hdocument⟩, -⟩ := names_read_exactly "length"
  have hquotes : Json.Quotes document "length" :=
    @Json.Quotes.of_read? document "length" "\\u006cength\"".toList (by decide +kernel)
      (by decide +kernel)
  refine ⟨(hok _).2 ⟨['\u3000'], "Miles_and_FEET".toList, ['\t'], ?_, ?_, ?_, ?_⟩,
    (herror _).2 ⟨rfl, ?_⟩, ?_⟩
  · decide +kernel
  · exact List.forall_mem_singleton.2 rfl
  · exact List.forall_mem_singleton.2 rfl
  · decide +kernel
  · exact hnone ⟨'\u017f', by decide +kernel, rfl, by decide⟩
  · exact ((hdocument document hquotes).1 .length).2 ((haspect .length).2 rfl)

end TrackSieve
