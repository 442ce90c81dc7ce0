/-!
# Decimal digits

The digits of a natural number, most significant first, and the number that digits stand for.
-/

namespace TrackSieve

/-- A decimal digit. -/
abbrev Digit := Fin 10

namespace Digit

/-- The digit zero. -/
def zero : Digit := ⟨0, by decide⟩

/-- The character of a digit. -/
def char (d : Digit) : Char := Char.ofNat (48 + d.val)

/-- The digit of a character, if it is one of the ten ASCII digits. -/
def ofChar? (c : Char) : Option Digit :=
  if h : 48 ≤ c.toNat ∧ c.toNat < 58 then some ⟨c.toNat - 48, by omega⟩ else none

@[simp] theorem ofChar?_char (d : Digit) : ofChar? d.char = some d := by
  revert d; decide

/-- The number whose decimal digits are given, most significant first. -/
def value (ds : List Digit) : Nat := ds.foldl (fun n d => 10 * n + d.val) 0

@[simp] theorem value_nil : value [] = 0 := rfl

@[simp] theorem value_append_singleton (ds : List Digit) (d : Digit) :
    value (ds ++ [d]) = 10 * value ds + d.val := by
  simp [value, List.foldl_append]

/-- The decimal digits of a number, most significant first; zero has one digit. -/
def ofNat (n : Nat) : List Digit :=
  if n < 10 then [Fin.ofNat 10 n] else ofNat (n / 10) ++ [Fin.ofNat 10 n]

/-- Reading the digits of a number gives the number back. -/
@[simp] theorem value_ofNat (n : Nat) : value (ofNat n) = n := by
  induction n using Nat.strongRecOn with
  | _ n ih =>
    unfold ofNat
    split
    · simp [value, Fin.ofNat]; omega
    · rw [value_append_singleton, ih _ (by omega)]
      simp [Fin.ofNat]; omega

/-- The number of decimal digits of a number. -/
def count (n : Nat) : Nat := if n < 10 then 1 else count (n / 10) + 1

@[simp] theorem length_ofNat (n : Nat) : (ofNat n).length = count n := by
  induction n using Nat.strongRecOn with
  | _ n ih =>
    unfold ofNat count
    split
    · rfl
    · simp [ih _ (by omega : n / 10 < n)]

/-- The digits at the front of a text, and the text after them. -/
def span : List Char → List Digit × List Char
  | [] => ([], [])
  | c :: cs =>
    match ofChar? c with
    | none => ([], c :: cs)
    | some d => (d :: (span cs).1, (span cs).2)

@[simp] theorem span_nil : span [] = ([], []) := rfl

/-- Nothing is lost between the digits and the rest. -/
theorem length_span (cs : List Char) : (span cs).1.length + (span cs).2.length = cs.length := by
  induction cs with
  | nil => rfl
  | cons c cs ih =>
    simp only [span]
    split
    · simp
    · simp only [List.length_cons]
      omega

/-- Digits followed by anything but a digit are read back, and the rest is left. -/
theorem span_map_char_append (ds : List Digit) (rest : List Char)
    (h : ∀ c ∈ rest.head?, ofChar? c = none) : span (ds.map char ++ rest) = (ds, rest) := by
  induction ds with
  | nil =>
    cases rest with
    | nil => rfl
    | cons c cs => simp [span, h c (by simp)]
  | cons d ds ih => simp [span, ih]

/-- The number that a text of digits spells; a plus sign may stand in front. -/
def natural? (cs : List Char) : Option Nat :=
  let digits := span (if cs.head? = some '+' then cs.tail else cs)
  if digits.1 = [] ∨ digits.2 ≠ [] then none else some (value digits.1)

end Digit

end TrackSieve
