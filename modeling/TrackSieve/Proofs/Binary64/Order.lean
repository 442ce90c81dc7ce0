import TrackSieve.Binary64.Basic

/-!
# The order of doubles

Between numbers the order, equality and the neighbour below are those of the ranks. A NaN is in no
relation, so from `x < y`, `x ≤ y` or `x.NumEq y` it follows that both sides are numbers. Zeros of
either sign share the rank zero, so `NumEq` is coarser than equality exactly there.
-/

namespace TrackSieve.Binary64

variable {x y z : Binary64}

/-! ### Ranks -/

/-- Finite numbers are the doubles whose rank lies strictly between the infinities. -/
theorem isFinite_iff_rank :
    x.IsFinite ↔ -(infinityCode : Int) < x.rank ∧ x.rank < infinityCode := by
  unfold IsFinite rank
  split <;> omega

theorem lt_iff_rank (hx : ¬x.IsNaN) (hy : ¬y.IsNaN) : x < y ↔ x.rank < y.rank := by
  rw [lt_def]
  exact ⟨fun h => h.2.2, fun h => ⟨hx, hy, h⟩⟩

theorem le_iff_rank (hx : ¬x.IsNaN) (hy : ¬y.IsNaN) : x ≤ y ↔ x.rank ≤ y.rank := by
  rw [le_def]
  exact ⟨fun h => h.2.2, fun h => ⟨hx, hy, h⟩⟩

theorem numEq_iff_rank (hx : ¬x.IsNaN) (hy : ¬y.IsNaN) : x.NumEq y ↔ x.rank = y.rank := by
  rw [numEq_def]
  exact ⟨fun h => h.2.2, fun h => ⟨hx, hy, h⟩⟩

protected theorem le_of_lt (h : x < y) : x ≤ y := ⟨h.1, h.2.1, Int.le_of_lt h.2.2⟩

protected theorem le_refl (h : ¬x.IsNaN) : x ≤ x := ⟨h, h, Int.le_refl _⟩

protected theorem le_trans (h : x ≤ y) (h' : y ≤ z) : x ≤ z :=
  ⟨h.1, h'.2.1, Int.le_trans h.2.2 h'.2.2⟩

protected theorem lt_trans (h : x < y) (h' : y < z) : x < z :=
  ⟨h.1, h'.2.1, Int.lt_trans h.2.2 h'.2.2⟩

/-- Of two numbers in order the first is less, or both are equal. -/
theorem lt_or_numEq_of_le (h : x ≤ y) : x < y ∨ x.NumEq y := by
  obtain ⟨hx, hy, hle⟩ := h
  rcases Int.lt_or_eq_of_le hle with hlt | heq
  · exact .inl ⟨hx, hy, hlt⟩
  · exact .inr ⟨hx, hy, heq⟩

protected theorem lt_of_lt_of_le (h : x < y) (h' : y ≤ z) : x < z :=
  ⟨h.1, h'.2.1, Int.lt_of_lt_of_le h.2.2 h'.2.2⟩

protected theorem lt_of_le_of_lt (h : x ≤ y) (h' : y < z) : x < z :=
  ⟨h.1, h'.2.1, Int.lt_of_le_of_lt h.2.2 h'.2.2⟩

theorem not_lt_of_le (h : x ≤ y) : ¬y < x := fun h' => Int.not_lt.2 h.2.2 h'.2.2

/-- Between numbers one of the two relations holds. -/
theorem le_of_not_lt (hx : ¬x.IsNaN) (hy : ¬y.IsNaN) (h : ¬x < y) : y ≤ x := by
  rw [lt_iff_rank hx hy, Int.not_lt] at h
  exact ⟨hy, hx, h⟩

/-- What lies between finite numbers is finite. -/
theorem isFinite_of_rank (hx : x.IsFinite) (hz : z.IsFinite) (hxy : x.rank ≤ y.rank)
    (hyz : y.rank ≤ z.rank) : y.IsFinite := by
  rw [isFinite_iff_rank] at *
  omega

@[simp] theorem rank_zeroOf (s : Bool) : (zeroOf s).rank = 0 := by
  cases s <;> rfl

@[simp] theorem isFinite_zeroOf (s : Bool) : (zeroOf s).IsFinite := by
  rw [isFinite_iff_rank, rank_zeroOf]
  decide

/-- Only the zeros have rank zero. -/
theorem rank_eq_zero_iff : x.rank = 0 ↔ x.IsZero := by
  unfold rank IsZero
  split <;> omega

/-! ### What is not finite -/

theorem not_isFinite_infinityOf (s : Bool) : ¬(infinityOf s).IsFinite := by
  cases s <;> decide

@[simp] theorem isNaN_infinityOf (s : Bool) : ¬(infinityOf s).IsNaN := isNaN_ofCode _ _

theorem rank_infinityOf (s : Bool) :
    (infinityOf s).rank = if s then -(infinityCode : Int) else infinityCode := by
  cases s <;> rfl

/-- A double that is not finite is a NaN or an infinity. -/
theorem isNaN_or_eq_infinityOf (h : ¬x.IsFinite) : x.IsNaN ∨ ∃ s, x = infinityOf s := by
  unfold IsFinite at h
  rcases Nat.lt_or_eq_of_le (Nat.le_of_not_lt h) with hlt | heq
  · exact .inl hlt
  · exact .inr ⟨x.negative, ext rfl heq.symm⟩

/-! ### Equality as numbers -/

protected theorem NumEq.refl (h : ¬x.IsNaN) : x.NumEq x := ⟨h, h, rfl⟩

protected theorem NumEq.symm (h : x.NumEq y) : y.NumEq x := ⟨h.2.1, h.1, h.2.2.symm⟩

protected theorem NumEq.trans (h : x.NumEq y) (h' : y.NumEq z) : x.NumEq z :=
  ⟨h.1, h'.2.1, h.2.2.trans h'.2.2⟩

/-- Doubles that are equal as numbers agree bit by bit, unless they are zeros. -/
theorem NumEq.eq_or_isZero (h : x.NumEq y) : x = y ∨ x.IsZero ∧ y.IsZero := by
  obtain ⟨-, -, hrank⟩ := h
  unfold rank at hrank
  by_cases hs : x.negative = y.negative
  · left
    apply ext hs
    rw [hs] at hrank
    split at hrank <;> omega
  · -- a number that equals one of the other sign is zero
    right
    unfold IsZero
    cases hx : x.negative <;> cases hy : y.negative <;> simp [hx, hy] at hs hrank ⊢ <;> omega

/-- Equal numbers are finite together. -/
theorem NumEq.isFinite_iff (h : x.NumEq y) : x.IsFinite ↔ y.IsFinite := by
  rw [isFinite_iff_rank, isFinite_iff_rank, h.2.2]

/-- Equal numbers compare alike with every double. -/
theorem NumEq.lt_iff_left (h : x.NumEq y) : x < z ↔ y < z := by
  simp only [lt_def, h.1, h.2.1, h.2.2]

theorem NumEq.lt_iff_right (h : x.NumEq y) : z < x ↔ z < y := by
  simp only [lt_def, h.1, h.2.1, h.2.2]

theorem NumEq.le_iff_left (h : x.NumEq y) : x ≤ z ↔ y ≤ z := by
  simp only [le_def, h.1, h.2.1, h.2.2]

theorem NumEq.le_iff_right (h : x.NumEq y) : z ≤ x ↔ z ≤ y := by
  simp only [le_def, h.1, h.2.1, h.2.2]

/-! ### The neighbour below -/

theorem not_isNaN_nextDown (h : ¬x.IsNaN) : ¬x.nextDown.IsNaN := by
  rw [nextDown, if_neg h]
  exact isNaN_ofRank _

theorem rank_nextDown (h : x.IsFinite) : x.nextDown.rank = x.rank - 1 := by
  have hr := isFinite_iff_rank.1 h
  rw [nextDown, if_neg h.not_isNaN, rank_ofRank]
  omega

/-- The neighbour below is the greatest double below: what lies below a number is at most its
neighbour. -/
theorem le_nextDown_iff (h : y.IsFinite) : x ≤ y.nextDown ↔ x < y := by
  rw [le_def, lt_def, rank_nextDown h, Int.le_sub_one_iff]
  simp only [not_isNaN_nextDown h.not_isNaN, h.not_isNaN, not_false_eq_true, true_and]

theorem nextDown_lt (h : x.IsFinite) : x.nextDown < x :=
  (le_nextDown_iff h).1 (Binary64.le_refl (not_isNaN_nextDown h.not_isNaN))

end TrackSieve.Binary64
