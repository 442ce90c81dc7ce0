/-!
# Pieces of a text

A separator cuts a text into pieces, one more than it occurs. Line ends cut it into lines. Put
together again with the separator between them, the pieces are the text.
-/

namespace TrackSieve.Text

/-- The pieces of a text between the places of a separator. -/
def pieces (separator : Char) : List Char → List (List Char)
  | [] => [[]]
  | c :: cs =>
    if c = separator then [] :: pieces separator cs
    else
      match pieces separator cs with
      | [] => [[c]]
      | piece :: rest => (c :: piece) :: rest

theorem pieces_ne_nil (separator : Char) (cs : List Char) : pieces separator cs ≠ [] := by
  cases cs with
  | nil => simp [pieces]
  | cons c cs =>
    rw [pieces]
    split
    · simp
    · split <;> simp

/-- Nothing but the separators is lost between the pieces. -/
theorem intercalate_pieces (separator : Char) (cs : List Char) :
    [separator].intercalate (pieces separator cs) = cs := by
  induction cs with
  | nil => rfl
  | cons c cs ih =>
    rw [pieces]
    obtain ⟨piece, rest, h⟩ := List.exists_cons_of_ne_nil (pieces_ne_nil separator cs)
    rw [h] at ih ⊢
    split
    · rename_i hc
      subst hc
      simpa [List.intercalate, List.intersperse] using ih
    · cases rest <;> simp_all [List.intercalate, List.intersperse]

/-- A line without the carriage return at its end. -/
def withoutReturn (line : List Char) : List Char :=
  if line.getLast? = some '\r' then line.dropLast else line

/-- The lines of a text. A carriage return in front of a line end belongs to it. -/
def lines (cs : List Char) : List (List Char) := (pieces '\n' cs).map withoutReturn

end TrackSieve.Text
