/-!
# Double-precision numbers

A double is a sign and a magnitude code. Codes grow with the magnitudes they stand for, so order,
equality and the neighbour below are integer arithmetic on the signed code, the rank. Two doubles
are equal as Lean values exactly if they agree bit for bit; `NumEq` is equality as numbers.
-/

namespace TrackSieve

/-- A double-precision number, held as a sign and the 63 bits below it: the exponent and the
fraction, read as one natural number. -/
structure Binary64 where
  negative : Bool
  magnitude : Nat
  magnitude_lt : magnitude < 0x8000000000000000
deriving DecidableEq

namespace Binary64

/-- The magnitude code of infinity: finite codes lie below it and the codes above it are NaNs. -/
def infinityCode : Nat := 0x7ff0000000000000

/-- The double of a sign and a magnitude code; codes above infinity become infinity. -/
def ofCode (negative : Bool) (code : Nat) : Binary64 where
  negative := negative
  magnitude := min code infinityCode
  magnitude_lt := by unfold infinityCode; omega

/-- The double whose bits are the lowest 64 bits of a natural number. -/
def ofBits (bits : Nat) : Binary64 where
  negative := bits / 0x8000000000000000 % 2 == 1
  magnitude := bits % 0x8000000000000000
  magnitude_lt := Nat.mod_lt _ (by decide)

/-- The 64 bits of a double as a natural number. -/
def toBits (x : Binary64) : Nat :=
  (if x.negative then 0x8000000000000000 else 0) + x.magnitude

/-- The zero of a sign. -/
def zeroOf (negative : Bool) : Binary64 := ofCode negative 0

/-- The infinity of a sign. -/
def infinityOf (negative : Bool) : Binary64 := ofCode negative infinityCode

/-- The quiet NaN without payload. -/
def nan : Binary64 := ofBits 0x7ff8000000000000

instance : Inhabited Binary64 := ⟨zeroOf false⟩

/-- No number at all. -/
def IsNaN (x : Binary64) : Prop := infinityCode < x.magnitude

/-- A number other than the infinities. -/
def IsFinite (x : Binary64) : Prop := x.magnitude < infinityCode

/-- Zero of either sign. -/
def IsZero (x : Binary64) : Prop := x.magnitude = 0

instance (x : Binary64) : Decidable x.IsNaN := inferInstanceAs (Decidable (_ < _))
instance (x : Binary64) : Decidable x.IsFinite := inferInstanceAs (Decidable (_ < _))
instance (x : Binary64) : Decidable x.IsZero := inferInstanceAs (Decidable (_ = _))

/-- The signed magnitude code: it orders all doubles but the NaNs, and both zeros have rank zero. -/
def rank (x : Binary64) : Int :=
  if x.negative then -(x.magnitude : Int) else x.magnitude

/-- The double of a rank; ranks beyond the infinities become infinite, and zero is positive. -/
def ofRank (r : Int) : Binary64 := ofCode (r < 0) r.natAbs

/-- Equality as numbers: the zeros are equal and a NaN equals nothing. -/
def NumEq (x y : Binary64) : Prop := ¬x.IsNaN ∧ ¬y.IsNaN ∧ x.rank = y.rank

instance : LT Binary64 := ⟨fun x y => ¬x.IsNaN ∧ ¬y.IsNaN ∧ x.rank < y.rank⟩
instance : LE Binary64 := ⟨fun x y => ¬x.IsNaN ∧ ¬y.IsNaN ∧ x.rank ≤ y.rank⟩

instance (x y : Binary64) : Decidable (x.NumEq y) := inferInstanceAs (Decidable (_ ∧ _ ∧ _))
instance (x y : Binary64) : Decidable (x < y) := inferInstanceAs (Decidable (_ ∧ _ ∧ _))
instance (x y : Binary64) : Decidable (x ≤ y) := inferInstanceAs (Decidable (_ ∧ _ ∧ _))

theorem lt_def {x y : Binary64} : x < y ↔ ¬x.IsNaN ∧ ¬y.IsNaN ∧ x.rank < y.rank := Iff.rfl

theorem le_def {x y : Binary64} : x ≤ y ↔ ¬x.IsNaN ∧ ¬y.IsNaN ∧ x.rank ≤ y.rank := Iff.rfl

theorem numEq_def {x y : Binary64} : x.NumEq y ↔ ¬x.IsNaN ∧ ¬y.IsNaN ∧ x.rank = y.rank := Iff.rfl

@[ext] theorem ext {x y : Binary64} (hs : x.negative = y.negative)
    (hm : x.magnitude = y.magnitude) : x = y := by
  cases x; cases y; simp_all

/-- The greatest double below a number; minus infinity and the NaNs stay as they are. -/
def nextDown (x : Binary64) : Binary64 :=
  if x.IsNaN then x else ofRank (x.rank - 1)

/-- Bits and doubles correspond one to one. -/
@[simp] theorem ofBits_toBits (x : Binary64) : ofBits x.toBits = x := by
  have := x.magnitude_lt
  apply ext
  · simp only [ofBits, toBits]
    cases h : x.negative <;> simp <;> omega
  · simp only [ofBits, toBits]
    split <;> omega

/-- No finite number is a NaN. -/
theorem IsFinite.not_isNaN {x : Binary64} (h : x.IsFinite) : ¬x.IsNaN := by
  unfold IsFinite at h; unfold IsNaN; omega

@[simp] theorem isNaN_ofCode (s : Bool) (c : Nat) : ¬(ofCode s c).IsNaN := by
  simp only [IsNaN, ofCode]; omega

@[simp] theorem isNaN_ofRank (r : Int) : ¬(ofRank r).IsNaN := isNaN_ofCode _ _

/-- The rank of a double built from a rank is that rank, cut off at the infinities. -/
theorem rank_ofRank (r : Int) :
    (ofRank r).rank = max (-(infinityCode : Int)) (min r infinityCode) := by
  simp only [rank, ofRank, ofCode, decide_eq_true_eq]
  split <;> omega

end Binary64

end TrackSieve
