import TrackSieve.Json.Literal
import Mathlib.Tactic

/-!
# Written literals read back

Every character is spelled by itself or by one escape, and the spelling is read as the code point of
the character. No character is half of a surrogate pair, so no two code points are joined, and the
half that spells a literal without text is read as such.
-/

namespace TrackSieve.Json.Literal

/-- Characters are not halves of surrogate pairs. -/
theorem not_surrogate (c : Char) : ¬(0xd800 ≤ c.toNat ∧ c.toNat < 0xe000) := by
  have h := c.valid
  simp only [UInt32.isValidChar, Nat.isValidChar] at h
  have hval : c.toNat = c.val.toNat := rfl
  omega

theorem hexUnit?_hexChar {n : Nat} (h : n < 0x100) :
    hexUnit? '0' '0' (hexChar (n / 16)) (hexChar (n % 16)) = some n := by
  have h0 : Text.hexDigit? '0' = some 0 := by decide
  have h1 := Text.hexDigit?_digitChar (n / 16) (by omega)
  have h2 := Text.hexDigit?_digitChar (n % 16) (by omega)
  simp only [hexUnit?, hexChar, h0, h1, h2, Option.bind_eq_bind, Option.bind_some, Option.pure_def]
  congr 1
  omega

/-- What is neither a quote nor a backslash nor a control character stands for itself. -/
theorem readPoints?_plain {c : Char} (hq : c ≠ '"') (hb : c ≠ '\\') (hc : ¬c.toNat < 0x20)
    (rest : List Char) :
    readPoints? (c :: rest) = (readPoints? rest).map fun p => (c.toNat :: p.1, p.2) := by
  rw [readPoints?.eq_def]
  split
  · simp_all
  · simp_all
  · simp_all
  · simp_all
  · rename_i heq
    cases heq
    rw [if_neg (by simp [hc, hb])]
    cases readPoints? rest <;> rfl

/-- The spelling of a character is read as its code point. -/
theorem readPoints?_escape_append (c : Char) (rest : List Char) :
    readPoints? (escape c ++ rest) = (readPoints? rest).map fun p => (c.toNat :: p.1, p.2) := by
  unfold escape
  split
  case h_8 =>
    split
    · rename_i hc
      simp only [List.cons_append, List.nil_append]
      rw [readPoints?, hexUnit?_hexChar (by omega)]
      cases readPoints? rest <;> rfl
    · exact readPoints?_plain (by assumption) (by assumption) (by assumption) rest
  all_goals
    simp only [List.cons_append, List.nil_append]
    rw [readPoints?.eq_4 _ _ (by simp)]
    cases readPoints? rest <;> rfl

theorem readPoints?_flatMap_escape (cs rest : List Char) :
    readPoints? (cs.flatMap escape ++ '"' :: rest) = some (cs.map Char.toNat, rest) := by
  induction cs with
  | nil => rfl
  | cons c cs ih =>
    rw [List.flatMap_cons, List.append_assoc, readPoints?_escape_append, ih]
    rfl

theorem joinPairs?_map_toNat (cs : List Char) : joinPairs? (cs.map Char.toNat) = some cs := by
  induction cs with
  | nil => rfl
  | cons c cs ih =>
    have hc := not_surrogate c
    cases cs with
    | nil => simp only [List.map_cons, List.map_nil, joinPairs?, if_neg hc, Char.ofNat_toNat]
    | cons d ds =>
      have hpair : ¬(0xd800 ≤ c.toNat ∧ c.toNat < 0xdc00 ∧
          0xdc00 ≤ d.toNat ∧ d.toNat < 0xe000) := by omega
      simp only [List.map_cons] at ih ⊢
      simp only [joinPairs?, if_neg hpair, if_neg hc, ih, Char.ofNat_toNat]
      rfl

/-- **A literal is read back**, up to its closing quote. -/
theorem read?_chars_append (l : Literal) (rest : List Char) :
    ∃ cs, l.chars ++ rest = '"' :: cs ∧ read? cs = some (l, rest) := by
  cases l with
  | none =>
    have hunit : hexUnit? 'd' '8' '0' '0' = some 0xd800 := by decide
    refine ⟨['\\', 'u', 'd', '8', '0', '0', '"'] ++ rest, rfl, ?_⟩
    simp [read?, readPoints?, hunit, joinPairs?]
  | some s =>
    refine ⟨s.toList.flatMap escape ++ '"' :: rest, by simp [chars], ?_⟩
    rw [read?, readPoints?_flatMap_escape]
    simp only [Option.map_some, joinPairs?_map_toNat, String.ofList_toList]

end TrackSieve.Json.Literal
