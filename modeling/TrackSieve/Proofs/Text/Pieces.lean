import TrackSieve.Text.Pieces
import Mathlib.Tactic

/-!
# Pieces and words

No piece of a text has the separator in it, and where two texts stand with the separator between
them, the pieces of the one are followed by those of the other. So a text that is put together from
words with single spaces between them falls into these words again.
-/

namespace TrackSieve.Text

variable {separator : Char} {cs piece : List Char}

/-! ### Pieces -/

theorem not_mem_of_mem_pieces (h : piece ∈ pieces separator cs) : separator ∉ piece := by
  induction cs generalizing piece with
  | nil =>
    rw [pieces, List.mem_singleton] at h
    rw [h]
    exact List.not_mem_nil
  | cons c cs ih =>
    rw [pieces] at h
    split at h
    · rcases List.mem_cons.1 h with rfl | h
      · exact List.not_mem_nil
      · exact ih h
    · rename_i hc
      split at h
      · rename_i hnil
        exact absurd hnil (pieces_ne_nil separator cs)
      · rename_i first rest hpieces
        rw [hpieces] at ih
        rcases List.mem_cons.1 h with rfl | h
        · rw [List.mem_cons, not_or]
          exact ⟨Ne.symm hc, ih List.mem_cons_self⟩
        · exact ih (List.mem_cons_of_mem _ h)

/-- Without the separator a text is one piece. -/
theorem pieces_of_not_mem (h : separator ∉ cs) : pieces separator cs = [cs] := by
  induction cs with
  | nil => rfl
  | cons c cs ih =>
    rw [List.mem_cons, not_or] at h
    rw [pieces, if_neg (Ne.symm h.1), ih h.2]

/-- A separator ends the pieces in front of it. -/
theorem pieces_append_cons (left right : List Char) :
    pieces separator (left ++ separator :: right) =
      pieces separator left ++ pieces separator right := by
  induction left with
  | nil => simp [pieces]
  | cons c left ih =>
    obtain ⟨first, rest, h⟩ := List.exists_cons_of_ne_nil (pieces_ne_nil separator left)
    rw [List.cons_append, pieces, pieces, ih, h]
    split <;> rfl

/-- Pieces that are not empty end as the last of them does. -/
theorem getLast?_intercalate (separator : Char) {P : Char → Prop} {ps : List (List Char)}
    (hne : ps ≠ []) (h : ∀ p ∈ ps, p ≠ [] ∧ ∀ c ∈ p.getLast?, P c) :
    [separator].intercalate ps ≠ [] ∧ ∀ c ∈ ([separator].intercalate ps).getLast?, P c := by
  induction ps with
  | nil => exact absurd rfl hne
  | cons p ps ih =>
    cases ps with
    | nil => simpa using h p List.mem_cons_self
    | cons q ps =>
      obtain ⟨hnil, hlast⟩ := ih (List.cons_ne_nil q ps) fun p hp => h p (List.mem_cons_of_mem _ hp)
      rw [List.intercalate_cons_cons]
      refine ⟨List.append_ne_nil_of_right_ne_nil _ hnil, ?_⟩
      rwa [List.getLast?_append_of_ne_nil _ hnil]

/-! ### Words -/

/-- The words of a text that has single spaces between them. -/
def words (s : String) : List String := (pieces ' ' s.toList).map String.ofList

theorem words_append_space (s t : String) : words (s ++ " " ++ t) = words s ++ words t := by
  have hspace : (s ++ " " ++ t).toList = s.toList ++ ' ' :: t.toList := by simp
  rw [words, hspace, pieces_append_cons, List.map_append]
  rfl

/-- Without a space a text is one word. -/
theorem words_of_not_mem {s : String} (h : ' ' ∉ s.toList) : words s = [s] := by
  rw [words, pieces_of_not_mem h, List.map_singleton, String.ofList_toList]

end TrackSieve.Text
