import TrackSieve.Decimal.Layout
import TrackSieve.Proofs.Decimal.Rounding

/-!
# Written doubles read back

The decimal that is chosen for a double rounds to it: the search only yields such decimals, and the
exact value that stands behind the search is one. A layout moves the point and adds zeros at either
end, none of which changes the value. So the numeral of a finite double, in whatever layout, denotes
the double, the sign of a zero included.
-/

namespace TrackSieve

open Binary64

namespace Digit

theorem foldl_eq_value (ds : List Digit) (n : Nat) :
    ds.foldl (fun n d => 10 * n + d.val) n = n * 10 ^ ds.length + value ds := by
  induction ds using List.reverseRecOn generalizing n with
  | nil => simp [value]
  | append_singleton ds d ih =>
    rw [List.foldl_append, ih, value_append_singleton, List.length_append, pow_add]
    simp only [List.foldl_cons, List.foldl_nil, List.length_singleton, pow_one]
    ring

theorem value_append (ds es : List Digit) :
    value (ds ++ es) = value ds * 10 ^ es.length + value es := by
  rw [value, List.foldl_append, foldl_eq_value es]
  rfl

@[simp] theorem value_replicate_zero (k : Nat) : value (List.replicate k zero) = 0 := by
  induction k with
  | zero => rfl
  | succ k ih => rw [List.replicate_succ', value_append_singleton, ih]; rfl

/-- The digits of a number other than zero do not start with a zero. -/
theorem head?_ofNat {n : Nat} (h : 0 < n) : ∃ d, (ofNat n).head? = some d ∧ d ≠ zero := by
  induction n using Nat.strongRecOn with
  | _ n ih =>
    unfold ofNat
    split
    · refine ⟨Fin.ofNat 10 n, rfl, ?_⟩
      intro hz
      have := congrArg Fin.val hz
      simp only [Fin.ofNat, zero] at this
      omega
    · obtain ⟨d, hd, hne⟩ := ih (n / 10) (by omega) (by omega)
      refine ⟨d, ?_, hne⟩
      rw [List.head?_append, hd]
      rfl

theorem ofNat_ne_nil (n : Nat) : ofNat n ≠ [] := by
  unfold ofNat
  split <;> simp

end Digit

/-! ### The chosen decimal -/

namespace Decimal

variable {x : Binary64}

/-- With a unit of `2 ^ -k` a number of units is a decimal with `k` places, and is rounded as it
is, provided that its digits stay in the range of the reader. -/
theorem roundDecimal_places {tie : Tie} {negative : Bool} {n k fives low bits high : Nat}
    (hunit : unitsPerOne = 2 ^ k) (hfives : fives = 5 ^ k) (hn : 0 < n) (hbits : n < 2 ^ bits)
    (hlow : 10 ^ low ≤ fives) (hhigh : 2 ^ bits * fives < 10 ^ high) (hmin : k ≤ low + 400)
    (hmax : high ≤ k + 400) :
    roundDecimal tie negative (n * fives) (-(k : Int)) = ofUnits tie negative (n * 1) 1 := by
  have hpos : 0 < fives := lt_of_lt_of_le (by positivity) hlow
  obtain ⟨hcount, hcount'⟩ : low < Digit.count (n * fives) ∧ Digit.count (n * fives) ≤ high :=
    Digit.count_bounds (hlow.trans (Nat.le_mul_of_pos_left _ hn))
      ((Nat.mul_lt_mul_of_pos_right hbits hpos).trans hhigh)
  have hten : fives * 2 ^ k = 10 ^ k := by rw [hfives]; exact (Nat.mul_pow 5 2 k).symm
  clear hfives
  have hunits : ofUnits tie negative (n * fives * 2 ^ k * 10 ^ (-(k : Int)).toNat)
      (10 ^ (- -(k : Int)).toNat) = ofUnits tie negative (n * 1) 1 := by
    rw [show (-(k : Int)).toNat = 0 by omega, show (- -(k : Int)).toNat = k by omega]
    refine ofUnits_congr (by positivity) one_pos ?_
    rw [pow_zero, mul_one, mul_one, mul_one, mul_assoc, hten]
  rw [← hunits, ← hunit]
  exact roundDecimal_of_places (Nat.mul_pos hn hpos) (by omega) (by omega)

/-- The exact value of a positive double rounds to the double. -/
theorem toBinary64_exact (hs : x.negative = false) (hf : x.IsFinite) (hz : ¬x.IsZero) :
    (exact x.units).toBinary64 = x := by
  have hunit : unitsPerOne = 2 ^ 1074 := by decide +kernel
  rw [toBinary64, ofDecimal, exact, show (-1074 : Int) = -((1074 : Nat) : Int) from rfl]
  rw [roundDecimal_places (k := 1074) hunit (by decide +kernel) (units_pos hz) (units_lt hf)
    (show 10 ^ 750 ≤ _ by decide +kernel) (show _ < 10 ^ 1474 by decide +kernel) (by norm_num)
    (by norm_num), ← hs]
  exact ofUnits_units hf one_pos

/-- **The chosen decimal rounds to the double.** -/
theorem toBinary64_shortest (hs : x.negative = false) (hf : x.IsFinite) (hz : ¬x.IsZero) :
    (shortest x).toBinary64 = x := by
  unfold shortest
  cases h : (List.range' 1 17).findSome? (nearest? x) with
  | none => exact toBinary64_exact hs hf hz
  | some d =>
    obtain ⟨digits, -, hd⟩ := List.exists_of_findSome?_eq_some h
    exact toBinary64_of_nearest? hd

theorem coefficient_shortest_pos (hs : x.negative = false) (hf : x.IsFinite) (hz : ¬x.IsZero) :
    0 < (shortest x).coefficient := by
  refine Nat.pos_of_ne_zero fun hc => hz ?_
  rw [← toBinary64_shortest hs hf hz, toBinary64, hc, ofDecimal_zero]
  rfl

end Decimal

/-! ### The layout -/

namespace Layout

variable (l : Layout)

/-- A layout places the digits of a number without changing its value. -/
theorem round_place (tie : Tie) (negative : Bool) {digits : List Digit} (hd : digits ≠ [])
    (point : Int) :
    (l.place negative digits point).round tie =
      roundDecimal tie negative (Digit.value digits) (point - digits.length) := by
  have hlen : 0 < digits.length := List.length_pos_of_ne_nil hd
  unfold place
  split
  · rcases le_or_gt point 0 with hp | hp
    · -- the point stands in front of all digits, which leaves a single zero before it
      have hnat : point.toNat = 0 := by omega
      have hne : (List.replicate (-point).toNat Digit.zero ++ digits).isEmpty = false := by
        simp [hd]
      simp only [Numeral.round, hnat, Nat.zero_sub, List.take_zero, List.drop_zero,
        List.replicate_zero, List.append_nil, List.isEmpty_nil, if_true, hne, Bool.false_and,
        Bool.false_eq_true, if_false]
      have hvalue : Digit.value ([.zero] ++ (List.replicate (-point).toNat .zero ++ digits)) =
          Digit.value digits := by
        rw [Digit.value_append, Digit.value_append, Digit.value_replicate_zero]
        simp [Digit.value, Digit.zero]
      rw [hvalue, List.length_append, List.length_replicate]
      congr 1
      omega
    · have hneg : (-point).toNat = 0 := by omega
      rcases lt_or_ge point.toNat digits.length with hlt | hge
      · -- the point stands between two digits
        have hpad : point.toNat - digits.length = 0 := by omega
        have hwhole : (digits.take point.toNat).isEmpty = false := by
          rw [List.isEmpty_eq_false_iff, ← List.length_pos_iff, List.length_take]
          omega
        have hfraction : (digits.drop point.toNat).isEmpty = false := by
          rw [List.isEmpty_eq_false_iff, ← List.length_pos_iff, List.length_drop]
          omega
        simp only [Numeral.round, hpad, hneg, List.replicate_zero, List.append_nil,
          List.nil_append, hwhole, hfraction, Bool.false_and, Bool.false_eq_true, if_false,
          List.take_append_drop, List.length_drop]
        congr 1
        omega
      · -- zeros fill up the places before the point
        have hwhole : (digits ++ List.replicate (point.toNat - digits.length) Digit.zero).isEmpty =
            false := by simp [hd]
        obtain ⟨k, hk⟩ :
            ∃ k, (if l.markWhole then [Digit.zero] else []) = List.replicate k Digit.zero := by
          cases l.markWhole
          · exact ⟨0, rfl⟩
          · exact ⟨1, rfl⟩
        simp only [Numeral.round, hneg, List.replicate_zero, List.nil_append,
          List.take_of_length_le hge, List.drop_of_length_le hge, hwhole, Bool.false_eq_true,
          if_false, List.isEmpty_nil, Bool.true_and, hk, List.length_replicate]
        rw [List.append_assoc, List.replicate_append_replicate, Digit.value_append,
          Digit.value_replicate_zero, List.length_replicate, Nat.add_zero, roundDecimal_mul_pow]
        congr 1
        push_cast
        omega
  · simp only [Numeral.round, List.take_append_drop, List.length_drop]
    congr 1
    omega

/-- **What a layout writes for a finite double denotes the double.** -/
theorem toBinary64_numeral {x : Binary64} (h : x.IsFinite) : (l.numeral x).toBinary64 = x := by
  unfold numeral
  split
  · rename_i hz
    rw [Numeral.toBinary64, round_place l .even x.negative (List.cons_ne_nil Digit.zero []) 1]
    have hzero : Digit.value [Digit.zero] = 0 := rfl
    rw [hzero, roundDecimal_zero]
    exact ext rfl hz.symm
  · rename_i hz
    -- the search runs on the absolute value and the sign is put back
    have hround := Decimal.toBinary64_shortest (x := { x with negative := false }) rfl h hz
    simp only [Numeral.toBinary64]
    rw [round_place l .even x.negative (Digit.ofNat_ne_nil _), Digit.value_ofNat,
      add_sub_cancel_right, roundDecimal_negative]
    rw [Decimal.toBinary64, ofDecimal] at hround
    rw [hround]

end Layout

end TrackSieve
