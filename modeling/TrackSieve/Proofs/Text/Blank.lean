import TrackSieve.Text.Blank
import Mathlib.Data.List.Forall2
import Mathlib.Data.List.TakeWhile

/-!
# Blanks around a text, and letters in any case

A text is its trimmed part with blanks on both sides. Trimming takes off nothing if the text neither
starts nor ends with a blank, and just the blanks on both sides if there are none in between.
Letters have a case in ASCII only, so two texts with the same capital letters differ in nothing but
the case of such letters.
-/

namespace TrackSieve.Text

variable {left cs ds right : List Char}

/-! ### Blanks -/

theorem dropWhile_isBlank_append (hleft : ∀ c ∈ left, isBlank c)
    (hhead : ∀ c ∈ cs.head?, isBlank c = false) : (left ++ cs).dropWhile isBlank = cs := by
  rw [List.dropWhile_append_of_pos hleft]
  cases cs with
  | nil => rfl
  | cons c cs =>
    rw [List.dropWhile_cons_of_neg]
    rw [hhead c rfl]
    exact Bool.false_ne_true

theorem trimEnd_append (hright : ∀ c ∈ right, isBlank c)
    (hlast : ∀ c ∈ cs.getLast?, isBlank c = false) : trimEnd (cs ++ right) = cs := by
  have hback : (right.reverse ++ cs.reverse).dropWhile isBlank = cs.reverse := by
    refine dropWhile_isBlank_append (fun c hc => hright c (List.mem_reverse.1 hc)) ?_
    rwa [List.head?_reverse]
  rw [trimEnd, List.reverse_append, hback, List.reverse_reverse]

/-- A text that does not end with a blank keeps its end. -/
theorem trimEnd_eq_self (hlast : ∀ c ∈ cs.getLast?, isBlank c = false) : trimEnd cs = cs := by
  simpa using @trimEnd_append cs [] nofun hlast

/-- A text that neither starts nor ends with a blank is trimmed already. -/
theorem trim_eq_self (hhead : ∀ c ∈ cs.head?, isBlank c = false)
    (hlast : ∀ c ∈ cs.getLast?, isBlank c = false) : trim cs = cs := by
  have hfront := @dropWhile_isBlank_append [] cs nofun hhead
  rw [List.nil_append] at hfront
  rw [trim, hfront, trimEnd_eq_self hlast]

/-- Just the blanks on both sides are taken off characters that are no blanks. -/
theorem trim_append_append (hleft : ∀ c ∈ left, isBlank c) (hright : ∀ c ∈ right, isBlank c)
    (hcs : ∀ c ∈ cs, isBlank c = false) : trim (left ++ cs ++ right) = cs := by
  cases cs with
  | nil =>
    -- with nothing in between, the blanks on the right are taken off with those on the left
    have hall : ∀ c ∈ left ++ [] ++ right, isBlank c := by
      rintro c hc
      rcases List.mem_append.1 hc with hc | hc
      · exact hleft c (by simpa using hc)
      · exact hright c hc
    have hnone := @dropWhile_isBlank_append _ [] hall nofun
    rw [List.append_nil] at hnone
    rw [trim, hnone]
    rfl
  | cons c cs =>
    have hfront : (left ++ (c :: cs ++ right)).dropWhile isBlank = c :: cs ++ right := by
      refine dropWhile_isBlank_append hleft ?_
      rintro d ⟨⟩
      exact hcs c List.mem_cons_self
    rw [trim, List.append_assoc, hfront]
    exact trimEnd_append hright fun d hd => hcs d (List.mem_of_getLast? hd)

/-- A text is its trimmed part with blanks on both sides. -/
theorem exists_eq_append_trim (cs : List Char) :
    ∃ left right, cs = left ++ trim cs ++ right ∧ (∀ c ∈ left, isBlank c) ∧
      ∀ c ∈ right, isBlank c := by
  let rest := cs.dropWhile isBlank
  refine ⟨cs.takeWhile isBlank, (rest.reverse.takeWhile isBlank).reverse, ?_,
    fun c hc => List.mem_takeWhile_imp hc,
    fun c hc => List.mem_takeWhile_imp (List.mem_reverse.1 hc)⟩
  have hrest : trim cs ++ (rest.reverse.takeWhile isBlank).reverse = rest := by
    rw [trim, trimEnd, ← List.reverse_append, List.takeWhile_append_dropWhile,
      List.reverse_reverse]
  rw [List.append_assoc, hrest, List.takeWhile_append_dropWhile]

/-! ### Letters -/

/-- Only characters of ASCII have a case: what holds of those, and of every character that has no
other case, holds of all characters. -/
@[elab_as_elim]
theorem asciiCases {motive : Char → Prop} (ascii : ∀ n < 128, motive (Char.ofNat n))
    (caseless : ∀ c : Char, c.toLower = c → c.toUpper = c → motive c) (c : Char) : motive c := by
  rcases Nat.lt_or_ge c.toNat 128 with hc | hc
  · rw [← Char.ofNat_toNat c]
    exact ascii _ hc
  · have habove : ∀ d : Char, d.toNat < 128 → ¬c.val ≤ d.val := fun d hd hle =>
      Nat.not_lt.2 (hc.trans hle) hd
    have hlower : c.toLower = c := dif_neg fun h => habove 'Z' (by decide) h.2
    have hupper : c.toUpper = c := dif_neg fun h => habove 'z' (by decide) h.2
    exact caseless c hlower hupper

/-- A letter in any case has one capital letter. -/
theorem toUpper_eq_of_case {c d : Char} (h : d = c ∨ d = c.toLower) : d.toUpper = c.toUpper := by
  rcases h with rfl | rfl
  · rfl
  · cases c using asciiCases with
    | ascii n hn =>
      revert n
      decide
    | caseless c hlower _ => rw [hlower]

/-- Every character is in some case of its capital letter. -/
theorem case_toUpper (d : Char) : d = d.toUpper ∨ d = d.toUpper.toLower := by
  cases d using asciiCases with
  | ascii n hn =>
    revert n
    decide
  | caseless d _ hupper => exact .inl hupper.symm

/-- Folding makes no letter of what is none. -/
theorem isAlpha_of_isAlpha_toLower {c : Char} (h : c.toLower.isAlpha) : c.isAlpha := by
  cases c using asciiCases with
  | ascii n hn =>
    revert n
    decide
  | caseless c hlower _ => rwa [hlower] at h

/-- Characters in any case: each of them is as given, or the small letter of the given one. -/
def InCase (cs ds : List Char) : Prop := List.Forall₂ (fun c d => d = c ∨ d = c.toLower) cs ds

instance (cs ds : List Char) : Decidable (InCase cs ds) :=
  inferInstanceAs (Decidable (List.Forall₂ _ _ _))

theorem InCase.map_toUpper (h : InCase cs ds) : ds.map Char.toUpper = cs.map Char.toUpper := by
  induction h with
  | nil => rfl
  | cons hd _ ih => rw [List.map_cons, List.map_cons, ih, toUpper_eq_of_case hd]

/-- Characters are in some case of their capital letters. -/
theorem inCase_map_toUpper (ds : List Char) : InCase (ds.map Char.toUpper) ds := by
  induction ds with
  | nil => exact .nil
  | cons d ds ih => exact .cons (case_toUpper d) ih

theorem InCase.exists_of_mem (h : InCase cs ds) {d : Char} (hd : d ∈ ds) :
    ∃ c ∈ cs, d = c ∨ d = c.toLower := by
  induction h with
  | nil => cases hd
  | @cons c e _ _ hce _ ih =>
    rcases List.mem_cons.1 hd with rfl | hd
    · exact ⟨c, List.mem_cons_self, hce⟩
    · obtain ⟨c', hc', hd⟩ := ih hd
      exact ⟨c', List.mem_cons_of_mem _ hc', hd⟩

end TrackSieve.Text
