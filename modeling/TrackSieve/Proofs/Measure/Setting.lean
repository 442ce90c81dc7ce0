import TrackSieve.Measure.System
import TrackSieve.Proofs.Text.Blank

/-!
# Which settings select a system

A setting selects a measurement system exactly if it is the name of the system, with its letters in
any case and with blanks on both sides. The case of letters is a matter of ASCII alone, so no letter
outside of ASCII stands for one of the name, although a full folding of case would have such
letters.
-/

namespace TrackSieve.MeasurementSystem

variable {m m' : MeasurementSystem} {s : String} {cs : List Char}

/-- A text spells the name of a system, in any case and with blanks on both sides. -/
def SpelledBy (m : MeasurementSystem) (s : String) : Prop :=
  ∃ left cs right, s.toList = left ++ cs ++ right ∧ (∀ c ∈ left, Text.isBlank c) ∧
    (∀ c ∈ right, Text.isBlank c) ∧ Text.InCase m.name.toList cs

/-- The letters of a name are capital. -/
theorem map_toUpper_name (m : MeasurementSystem) :
    m.name.toList.map Char.toUpper = m.name.toList := by
  cases m <;> decide

/-- The letters of a name are of ASCII and no blanks, in either case. -/
theorem spec_of_mem_name {c : Char} (hc : c ∈ m.name.toList) :
    (Text.isBlank c = false ∧ c.toNat < 0x80) ∧
      Text.isBlank c.toLower = false ∧ c.toLower.toNat < 0x80 := by
  have hall : m.name.toList.all fun c => (Text.isBlank c = false ∧ c.toNat < 0x80) ∧
      Text.isBlank c.toLower = false ∧ c.toLower.toNat < 0x80 := by
    cases m <;> decide
  exact of_decide_eq_true (List.all_eq_true.1 hall c hc)

theorem spec_of_mem_inCase_name (h : Text.InCase m.name.toList cs) {c : Char} (hc : c ∈ cs) :
    Text.isBlank c = false ∧ c.toNat < 0x80 := by
  obtain ⟨d, hd, rfl | rfl⟩ := h.exists_of_mem hc
  · exact (spec_of_mem_name hd).1
  · exact (spec_of_mem_name hd).2

/-- The system that a setting selects is the one whose name it spells. -/
theorem ofSetting?_eq_some_iff : ofSetting? s = some m ↔ m.SpelledBy s := by
  rw [ofSetting?, ofName?_eq_some_iff]
  constructor
  · intro h
    obtain ⟨left, right, hs, hleft, hright⟩ := Text.exists_eq_append_trim s.toList
    refine ⟨left, _, right, hs, hleft, hright, ?_⟩
    rw [← h, String.toList_ofList]
    exact Text.inCase_map_toUpper _
  · rintro ⟨left, cs, right, hs, hleft, hright, hcase⟩
    have hblanks : ∀ c ∈ cs, Text.isBlank c = false :=
      fun c hc => (spec_of_mem_inCase_name hcase hc).1
    rw [hs, Text.trim_append_append hleft hright hblanks, hcase.map_toUpper, m.map_toUpper_name,
      String.ofList_toList]

/-- A text spells the name of one system at most. -/
theorem SpelledBy.unique (h : m.SpelledBy s) (h' : m'.SpelledBy s) : m = m' := by
  rw [← ofSetting?_eq_some_iff] at h h'
  exact Option.some.inj (h.symm.trans h')

/-- The name of a system is read in any case. -/
theorem ofSetting?_of_inCase (h : Text.InCase m.name.toList cs) :
    ofSetting? (String.ofList cs) = some m := by
  refine ofSetting?_eq_some_iff.2 ⟨[], cs, [], ?_, nofun, nofun, h⟩
  rw [String.toList_ofList, List.nil_append, List.append_nil]

@[simp] theorem ofSetting?_name (m : MeasurementSystem) : ofSetting? m.name = some m := by
  have hcase := Text.inCase_map_toUpper m.name.toList
  rw [m.map_toUpper_name] at hcase
  rw [← String.ofList_toList (s := m.name), ofSetting?_of_inCase hcase]

/-- A text with a character that is neither of ASCII nor a blank spells no name. -/
theorem not_spelledBy_of_mem {c : Char} (hc : c ∈ s.toList) (hblank : Text.isBlank c = false)
    (hascii : 0x80 ≤ c.toNat) : ¬m.SpelledBy s := by
  rintro ⟨left, cs, right, hs, hleft, hright, hcase⟩
  rw [hs, List.mem_append, List.mem_append] at hc
  rcases hc with (hc | hc) | hc
  · exact Bool.false_ne_true (hblank.symm.trans (hleft c hc))
  · exact absurd (spec_of_mem_inCase_name hcase hc).2 (Nat.not_lt.2 hascii)
  · exact Bool.false_ne_true (hblank.symm.trans (hright c hc))

end TrackSieve.MeasurementSystem
