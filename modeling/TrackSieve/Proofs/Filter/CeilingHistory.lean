import TrackSieve.Proofs.Filter.UpperSwitch
import TrackSieve.Proofs.Range.Capped

/-!
# Histories of ceilings

A finite ceiling keeps the bounds of a filter in order exactly if it lies above the floor, or on the
floor while the upper bound follows it. And however often the ceiling is moved, above the floor or
below it, the outcome has a closed form: an upper bound on the ceiling ends at the last ceiling, a
narrowed one at the least neighbour of the ceilings, and the lower bound gives way to either.
-/

namespace TrackSieve.RangeFilter

open Binary64

variable {ρ : Type} {f : RangeFilter ρ} {xs : List Binary64}

/-! ### One ceiling -/

/-- **Which ceilings keep the bounds in order.** From bounds in order a finite ceiling leads to
bounds in order exactly if it lies above the floor, or equals the floor while the upper bound sits
on the old ceiling. In any state, a narrowed upper bound that the new ceiling does not clear is cut
off at the greatest double below the new ceiling. -/
theorem checkBounds_moveCeiling_iff (f : RangeFilter ρ) {x : Binary64} (hx : x.IsFinite) :
    let f' := (f.apply (.edit (.moveCeiling x))).1
    (f.range.checkBounds f.gauge.aspect = .ok () →
      (f'.range.checkBounds f.gauge.aspect = .ok () ↔
        f.range.floor < x ∨ (x.NumEq f.range.floor ∧ f.range.UpperAtCeiling))) ∧
    (f.range.upper < f.range.ceiling → x ≤ f.range.upper →
      f'.range.upper < x ∧ ∀ v, v < x → v ≤ f'.range.upper) := by
  intro f'
  simp only [f', range_apply_edit]
  constructor
  · intro h
    rw [Range.checkBounds_eq_ok_iff] at h ⊢
    exact h.ordered_moveCeiling_iff hx
  · intro hlt hle
    rw [Range.upper_moveCeiling_of_le hlt hle]
    exact ⟨nextDown_lt hx, fun v hv => (le_nextDown_iff hx).2 hv⟩

/-- The ceiling comes down to the positive zero on a floor that is the negative zero: this keeps the
bounds in order while the upper bound follows, and takes a narrowed one below the floor. On the
least finite floor the narrowed bound ends at minus infinity. -/
theorem checkBounds_moveCeiling_iff_zeros :
    let twenty := ofBits 0x4034000000000000
    let twoHundred := ofBits 0x4069000000000000
    let ceiling := ofBits 0x4072c00000000000
    let lowest := ofBits 0xffefffffffffffff
    let f (floor upper : Binary64) : RangeFilter Track :=
      { ofGauge Aspect.length.gauge with range := ⟨floor, ceiling, twenty, upper, true⟩ }
    let f' (floor upper x : Binary64) := ((f floor upper).apply (.edit (.moveCeiling x))).1
    (f' (zeroOf true) ceiling (zeroOf false)).range.checkBounds .length = .ok () ∧
      ¬(f' (zeroOf true) twoHundred (zeroOf false)).range.checkBounds .length = .ok () ∧
      (f' (zeroOf true) twoHundred (zeroOf false)).range.upper < zeroOf false ∧
      ¬(f' lowest twoHundred lowest).range.checkBounds .length = .ok () ∧
      ∀ v, v < lowest → v ≤ (f' lowest twoHundred lowest).range.upper := by
  intro twenty twoHundred ceiling lowest f f'
  have hopen := checkBounds_moveCeiling_iff (f (zeroOf true) ceiling) (isFinite_zeroOf false)
  have hzero := checkBounds_moveCeiling_iff (f (zeroOf true) twoHundred) (isFinite_zeroOf false)
  have hlowest := checkBounds_moveCeiling_iff (f lowest twoHundred) (show lowest.IsFinite by decide)
  refine ⟨?_, ?_, ?_, ?_, ?_⟩
  · exact (hopen.1 (by decide)).2 (by decide)
  · exact fun h => absurd ((hzero.1 (by decide)).1 h) (by decide)
  · exact (hzero.2 (by decide) (by decide)).1
  · exact fun h => absurd ((hlowest.1 (by decide)).1 h) (by decide)
  · exact (hlowest.2 (by decide) (by decide)).2

/-! ### Many ceilings -/

theorem range_run_ceilingMoves : (f.run (ceilingMoves xs)).range = f.range.moveCeilings xs := by
  induction xs generalizing f with
  | nil => rfl
  | cons x xs ih =>
    have hrun : (f.run (ceilingMoves (x :: xs))).range =
        ((f.apply (.edit (.moveCeiling x))).1.run (ceilingMoves xs)).range := rfl
    rw [hrun, ih, range_apply_edit, Range.moveCeilings_cons]

/-- **The outcome of a history of ceilings.** Let the bounds be in order and the ceiling be moved to
finite numbers, at least once. It ends at the last of them; floor and switch stay, and all bounds
are numbers. An upper bound on the ceiling ends at the last ceiling, and the lower bound at the
least among itself and the ceilings. A narrowed upper bound ends at the least among itself and the
neighbours below the ceilings, and the lower bound at the least of itself and that, so that the
order of the ceilings does not matter to the selection. A ceiling that was raised, in one step or
several, and put back leaves the range the same as numbers, and bit by bit if the upper bound was
narrowed. -/
theorem run_ceilingMoves_closed_form (h : f.range.InOrder) (hne : xs ≠ [])
    (hx : ∀ x ∈ xs, x.IsFinite) :
    let g := f.run (ceilingMoves xs)
    (g.range.ceiling = xs.getLast hne ∧ g.range.floor = f.range.floor ∧
      g.range.enabled = f.range.enabled ∧ ∀ x ∈ g.range.bounds, ¬x.IsNaN) ∧
    (f.range.UpperAtCeiling →
      g.range.upper.NumEq (xs.getLast hne) ∧ g.range.lower = least f.range.lower xs) ∧
    (f.range.upper < f.range.ceiling →
      g.range.upper = least f.range.upper (xs.map nextDown) ∧
      g.range.lower = least f.range.lower [g.range.upper] ∧
      ∀ ys, ys.Perm xs → (f.run (ceilingMoves ys)).range.upper = g.range.upper ∧
        (f.run (ceilingMoves ys)).range.lower = g.range.lower) ∧
    ((∀ x ∈ xs, f.range.ceiling ≤ x) →
      let back := f.run (ceilingMoves (xs ++ [f.range.ceiling]))
      back.range.Same f.range ∧ (f.range.upper < f.range.ceiling → back.range = f.range)) := by
  intro g
  have hord := Range.inOrder_iff_ordered.1 h
  have hlast : (f.range.moveCeilings xs).ceiling = xs.getLast hne :=
    Range.ceiling_moveCeilings_eq_getLast hne
  simp only [g, range_run_ceilingMoves]
  refine ⟨⟨hlast, Range.floor_moveCeilings, Range.enabled_moveCeilings, ?_⟩, fun hu => ⟨?_, ?_⟩,
    fun hlt => ⟨?_, ?_, ?_⟩, fun hraised => ?_⟩
  · exact hord.not_isNaN_moveCeilings hx
  · rw [← hlast]
    exact hord.capped.upperAtCeiling_moveCeilings hx hu
  · exact hord.capped.lower_moveCeilings_of_upperAtCeiling hx hu
  · exact Range.upper_moveCeilings_of_lt hx hlt
  · exact hord.capped.lower_moveCeilings_of_lt hx hlt
  · exact fun ys hperm => hord.capped.selection_moveCeilings_perm hx hlt hperm
  · have hc := hord.ceiling_isFinite
    have hfin : ∀ x ∈ xs ++ [f.range.ceiling], x.IsFinite :=
      List.forall_mem_append.2 ⟨hx, List.forall_mem_singleton.2 hc⟩
    have hge : ∀ x ∈ xs ++ [f.range.ceiling], f.range.ceiling ≤ x :=
      List.forall_mem_append.2
        ⟨hraised, List.forall_mem_singleton.2 (Binary64.le_refl hc.not_isNaN)⟩
    have hback : (xs ++ [f.range.ceiling]).getLastD f.range.ceiling = f.range.ceiling :=
      List.getLastD_concat
    exact ⟨hord.same_moveCeilings_back hfin hge hback,
      hord.capped.moveCeilings_back_of_lt hfin hge hback⟩

/-- Of a selection from 20 to 200 under a ceiling of 300 the ceilings 150, 100 and 400 leave what
lies below 100, in whatever order; once the ceiling was at the least finite number, nothing finite
is left; raised to 400 and put back, it leaves the range as it was. A selection that is open above
ends at the last ceiling. -/
theorem run_ceilingMoves_closed_form_hundred :
    let f (upper : Nat) : RangeFilter Track := { ofGauge Aspect.length.gauge with
      range := ⟨zeroOf false, .ofNat 300, .ofNat 20, .ofNat upper, true⟩ }
    let ceilings (ns : List Nat) := ns.map Binary64.ofNat
    let lowest := [ofBits 0xffefffffffffffff, .ofNat 300]
    ((f 200).run (ceilingMoves (ceilings [150, 100, 400]))).range.upper =
        (Binary64.ofNat 100).nextDown ∧
      ((f 200).run (ceilingMoves (ceilings [400, 100, 150]))).range.upper =
        (Binary64.ofNat 100).nextDown ∧
      ((f 200).run (ceilingMoves lowest)).range.lower = infinityOf true ∧
      ((f 200).run (ceilingMoves (ceilings [400] ++ [.ofNat 300]))).range = (f 200).range ∧
      ((f 300).run (ceilingMoves (ceilings [10, 400]))).range.upper.NumEq (.ofNat 400) := by
  intro f ceilings lowest
  have hf : (f 200).range.InOrder := by decide +kernel
  have hlt : (f 200).range.upper < (f 200).range.ceiling := by decide +kernel
  have hthree := (run_ceilingMoves_closed_form hf
    (show ceilings [150, 100, 400] ≠ [] by decide) (by decide +kernel)).2.2.1 hlt
  have hlowest := (run_ceilingMoves_closed_form hf
    (show lowest ≠ [] by decide) (by decide +kernel)).2.2.1 hlt
  have hraised := (run_ceilingMoves_closed_form hf
    (show ceilings [400] ≠ [] by decide) (by decide +kernel)).2.2.2 (by decide +kernel)
  have hopen := (run_ceilingMoves_closed_form (f := f 300) (by decide +kernel)
    (show ceilings [10, 400] ≠ [] by decide) (by decide +kernel)).2.1 (by decide +kernel)
  have hupper : ((f 200).run (ceilingMoves (ceilings [150, 100, 400]))).range.upper =
      (Binary64.ofNat 100).nextDown := by
    rw [hthree.1]
    decide +kernel
  refine ⟨hupper, ?_, ?_, hraised.2 hlt, hopen.1⟩
  · rw [(hthree.2.2 (ceilings [400, 100, 150]) (by decide +kernel)).1, hupper]
  · rw [hlowest.2.1, hlowest.1]
    decide +kernel

end TrackSieve.RangeFilter
