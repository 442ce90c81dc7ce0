/-!
# Parts of a text by bytes

Positions in a text are counted in bytes of its UTF-8 form. A part is given by two positions and is
there only if characters end at both.
-/

namespace TrackSieve.Text

/-- The number of bytes of a text. -/
def byteCount : List Char → Nat
  | [] => 0
  | c :: cs => c.utf8Size + byteCount cs

theorem byteCount_append_singleton (cs : List Char) (c : Char) :
    byteCount (cs ++ [c]) = byteCount cs + c.utf8Size := by
  induction cs with
  | nil => simp [byteCount]
  | cons d cs ih => rw [List.cons_append, byteCount, byteCount, ih, Nat.add_assoc]

/-- What stands behind a number of bytes, if a character ends there. -/
def dropBytes? : Nat → List Char → Option (List Char)
  | 0, cs => some cs
  | _ + 1, [] => none
  | n + 1, c :: cs => if c.utf8Size ≤ n + 1 then dropBytes? (n + 1 - c.utf8Size) cs else none

/-- What stands in a number of bytes, if a character ends there. -/
def takeBytes? : Nat → List Char → Option (List Char)
  | 0, _ => some []
  | _ + 1, [] => none
  | n + 1, c :: cs =>
    if c.utf8Size ≤ n + 1 then (takeBytes? (n + 1 - c.utf8Size) cs).map (c :: ·) else none

/-- The part of a text between two positions. -/
def cut? (first last : Nat) (cs : List Char) : Option (List Char) :=
  (dropBytes? first cs).bind (takeBytes? (last - first))

@[simp] theorem dropBytes?_byteCount_append (xs ys : List Char) :
    dropBytes? (byteCount xs) (xs ++ ys) = some ys := by
  induction xs with
  | nil => simp [byteCount, dropBytes?]
  | cons c xs ih =>
    obtain ⟨n, hn⟩ := Nat.exists_eq_add_of_lt c.utf8Size_pos
    have h : byteCount (c :: xs) = (n + byteCount xs) + 1 := by simp [byteCount]; omega
    rw [h, List.cons_append, dropBytes?, if_pos (by omega),
      show n + byteCount xs + 1 - c.utf8Size = byteCount xs by omega, ih]

@[simp] theorem takeBytes?_byteCount_append (xs ys : List Char) :
    takeBytes? (byteCount xs) (xs ++ ys) = some xs := by
  induction xs with
  | nil => simp [byteCount, takeBytes?]
  | cons c xs ih =>
    obtain ⟨n, hn⟩ := Nat.exists_eq_add_of_lt c.utf8Size_pos
    have h : byteCount (c :: xs) = (n + byteCount xs) + 1 := by simp [byteCount]; omega
    rw [h, List.cons_append, takeBytes?, if_pos (by omega),
      show n + byteCount xs + 1 - c.utf8Size = byteCount xs by omega, ih]
    rfl

/-- The part between two texts is what stands between them. -/
theorem cut?_append (xs ys zs : List Char) :
    cut? (byteCount xs) (byteCount xs + byteCount ys) (xs ++ (ys ++ zs)) = some ys := by
  simp [cut?]

end TrackSieve.Text
