import TrackSieve.Binary64.Basic
import TrackSieve.Track.Quantity

/-!
# Tracks

A recorded track has a name, a path and, once it has been analysed, the quantities that could be
measured. Tracks are compared as their texts and, quantity by quantity, as numbers.
-/

namespace TrackSieve

/-- The measured quantities of a track; a quantity may be absent. -/
structure Analysis where
  value? : Quantity → Option Binary64

namespace Analysis

/-- The analysis in which nothing is measured. -/
def empty : Analysis := ⟨fun _ => none⟩

/-- The analysis with one quantity set. -/
def set (a : Analysis) (q : Quantity) (x : Binary64) : Analysis :=
  ⟨fun p => if p = q then some x else a.value? p⟩

/-- The analysis with quantities set one after the other. -/
def ofList (settings : List (Quantity × Binary64)) : Analysis :=
  settings.foldl (fun a s => a.set s.1 s.2) empty

@[ext] theorem ext {a b : Analysis} (h : ∀ q, a.value? q = b.value? q) : a = b := by
  cases a; cases b; congr; exact funext h

@[simp] theorem value?_empty (q : Quantity) : empty.value? q = none := rfl

@[simp] theorem value?_set_self (a : Analysis) (q : Quantity) (x : Binary64) :
    (a.set q x).value? q = some x := by simp [set]

@[simp] theorem value?_set_of_ne (a : Analysis) {p q : Quantity} (h : p ≠ q) (x : Binary64) :
    (a.set q x).value? p = a.value? p := by simp [set, h]

end Analysis

/-- Both absent, or both present and equal as numbers. -/
def Binary64.NumEqOption : Option Binary64 → Option Binary64 → Prop
  | none, none => True
  | some x, some y => x.NumEq y
  | _, _ => False

instance : (a b : Option Binary64) → Decidable (Binary64.NumEqOption a b)
  | none, none => isTrue trivial
  | some x, some y => inferInstanceAs (Decidable (x.NumEq y))
  | none, some _ => isFalse id
  | some _, none => isFalse id

namespace Analysis

/-- Equal in every quantity. -/
def Same (a b : Analysis) : Prop :=
  ∀ q ∈ Quantity.all, Binary64.NumEqOption (a.value? q) (b.value? q)

instance (a b : Analysis) : Decidable (a.Same b) := inferInstanceAs (Decidable (∀ _ ∈ _, _))

end Analysis

/-- A recorded track: the name shown to the user, the path of its file, and the analysis, if there
is one yet. -/
structure Track where
  name : String
  path : String
  analysis : Option Analysis

namespace Track

/-- The measured value of a quantity of a track. -/
def value? (t : Track) (q : Quantity) : Option Binary64 := t.analysis.bind (·.value? q)

/-- Both not analysed, or both analysed and equal in every quantity. -/
def SameAnalysis : Option Analysis → Option Analysis → Prop
  | none, none => True
  | some a, some b => a.Same b
  | _, _ => False

instance : (a b : Option Analysis) → Decidable (SameAnalysis a b)
  | none, none => isTrue trivial
  | some a, some b => inferInstanceAs (Decidable (a.Same b))
  | none, some _ => isFalse id
  | some _, none => isFalse id

/-- Equality of tracks. -/
def Same (t u : Track) : Prop :=
  t.name = u.name ∧ t.path = u.path ∧ SameAnalysis t.analysis u.analysis

instance (t u : Track) : Decidable (t.Same u) := inferInstanceAs (Decidable (_ ∧ _ ∧ _))

end Track

end TrackSieve
