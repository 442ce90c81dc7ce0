import TrackSieve.Proofs.Filter.Calibrated
import TrackSieve.Proofs.Filter.Scan
import TrackSieve.Proofs.Range.Sliders

/-!
# Widening a selection

What a filter accepts is no interval: beyond an end of the domain values are accepted only while a
bound of the selection sits there. A wider selection still loses nothing, for a bound that moves
outwards can only come to sit on the end, not leave it. So the accepted records of a list stay
accepted, in order, whichever way the selection was widened: by a part, back to an end, or by a
reset.
-/

namespace TrackSieve

open Binary64

/-! ### Wider ranges -/

namespace Range

variable {r s t : Range} {v : Binary64}

/-- The second range selects at least as much of the same domain: no bound of its selection lies
further inside. -/
structure WidensTo (r s : Range) : Prop where
  floor_numEq : r.floor.NumEq s.floor
  ceiling_numEq : r.ceiling.NumEq s.ceiling
  lower_le : s.lower ≤ r.lower
  le_upper : r.upper ≤ s.upper

theorem Ascending.widensTo_refl (h : r.Ascending) : r.WidensTo r where
  floor_numEq := NumEq.refl h.floor_le_lower.1
  ceiling_numEq := NumEq.refl h.upper_le_ceiling.2.1
  lower_le := Binary64.le_refl h.lower_le_upper.1
  le_upper := Binary64.le_refl h.lower_le_upper.2.1

theorem WidensTo.trans (h : r.WidensTo s) (h' : s.WidensTo t) : r.WidensTo t where
  floor_numEq := h.floor_numEq.trans h'.floor_numEq
  ceiling_numEq := h.ceiling_numEq.trans h'.ceiling_numEq
  lower_le := Binary64.le_trans h'.lower_le h.lower_le
  le_upper := Binary64.le_trans h.le_upper h'.le_upper

theorem WidensTo.passesLower (h : r.WidensTo s) (hr : r.Ascending) (hs : s.Ascending)
    (hv : r.PassesLower v) : s.PassesLower v := by
  have hnan := hv.not_isNaN
  rw [hr.passesLower_iff_rank hnan] at hv
  rw [hs.passesLower_iff_rank hnan]
  have hfloor := h.floor_numEq.2.2
  have hlower := h.lower_le.2.2
  have hrank := hs.rank_le
  rcases hv with hv | ⟨hv, hat⟩
  · left
    omega
  · -- on the floor a lower bound has no room to move outwards
    right
    omega

theorem WidensTo.passesUpper (h : r.WidensTo s) (hr : r.Ascending) (hs : s.Ascending)
    (hv : r.PassesUpper v) (hnan : ¬v.IsNaN) : s.PassesUpper v := by
  rw [hr.passesUpper_iff_rank hnan] at hv
  rw [hs.passesUpper_iff_rank hnan]
  have hceiling := h.ceiling_numEq.2.2
  have hupper := h.le_upper.2.2
  have hrank := hs.rank_le
  rcases hv with hv | ⟨hv, hat⟩
  · left
    omega
  · right
    omega

/-- A wider selection keeps every value. -/
theorem WidensTo.accepts (h : r.WidensTo s) (hr : r.Ascending) (hs : s.Ascending)
    (hv : r.Accepts v) : s.Accepts v := by
  obtain ⟨hl, hu⟩ := hr.accepts_iff.1 hv
  exact hs.accepts_iff.2 ⟨h.passesLower hr hs hl, h.passesUpper hr hs hu hl.not_isNaN⟩

end Range

/-! ### Edits that widen -/

/-- The edit moves a bound of the selection outwards within the domain, or opens the selection. -/
def Edit.Widens (r : Range) : Edit → Prop
  | .moveLower x => r.floor ≤ x ∧ x ≤ r.lower
  | .moveUpper x => r.upper ≤ x ∧ x ≤ r.ceiling
  | .reset => True
  | .enable _ | .moveCeiling _ | .restore _ => False

/-- A widening edit keeps the bounds in order, the switch where it is, and every value selected. -/
theorem Edit.Widens.edit {r : Range} {e : Edit} (he : e.Widens r) (h : r.Ascending) :
    (r.edit e).Ascending ∧ (r.edit e).enabled = r.enabled ∧ r.WidensTo (r.edit e) := by
  obtain ⟨hfloor, hceiling, hlower, hupper⟩ := h.widensTo_refl
  obtain ⟨hfl, hlu, huc⟩ := h
  cases e with
  | moveLower x =>
    obtain ⟨hfx, hxl⟩ := he
    rw [Range.edit_moveLower]
    refine ⟨⟨hfx, Binary64.le_trans hxl hlu, huc⟩, rfl, ?_⟩
    exact ⟨hfloor, hceiling, hxl, hupper⟩
  | moveUpper x =>
    obtain ⟨hux, hxc⟩ := he
    rw [Range.edit_moveUpper]
    refine ⟨⟨hfl, Binary64.le_trans hlu hux, hxc⟩, rfl, ?_⟩
    exact ⟨hfloor, hceiling, hlower, hux⟩
  | reset =>
    rw [Range.edit_reset]
    refine ⟨⟨Binary64.le_refl hfl.1, ?_, Binary64.le_refl huc.2.1⟩, rfl, ?_⟩
    · exact Binary64.le_trans hfl (Binary64.le_trans hlu huc)
    · exact ⟨hfloor, hceiling, hfl, huc⟩
  | enable on => exact he.elim
  | moveCeiling x => exact he.elim
  | restore stored => exact he.elim

instance (r : Range) : (e : Edit) → Decidable (e.Widens r)
  | .moveLower x => inferInstanceAs (Decidable (r.floor ≤ x ∧ x ≤ r.lower))
  | .moveUpper x => inferInstanceAs (Decidable (r.upper ≤ x ∧ x ≤ r.ceiling))
  | .reset => isTrue trivial
  | .enable _ | .moveCeiling _ | .restore _ => isFalse id

namespace RangeFilter

variable {ρ : Type} {f g k : RangeFilter ρ}

/-! ### Wider filters -/

/-- The filter is switched on, and its bounds are in order. -/
structure Sieving (f : RangeFilter ρ) : Prop where
  enabled : f.range.enabled = true
  ascending : f.range.Ascending

/-- The second filter reads records in the same way and has a wider selection. -/
structure WidensTo (f g : RangeFilter ρ) : Prop where
  gauge_eq : g.gauge = f.gauge
  coefficient_eq : g.coefficient = f.coefficient
  range : f.range.WidensTo g.range

theorem Sieving.widensTo_refl (h : f.Sieving) : f.WidensTo f :=
  ⟨rfl, rfl, h.ascending.widensTo_refl⟩

theorem WidensTo.trans (h : f.WidensTo g) (h' : g.WidensTo k) : f.WidensTo k :=
  ⟨h'.gauge_eq.trans h.gauge_eq, h'.coefficient_eq.trans h.coefficient_eq, h.range.trans h'.range⟩

/-- A wider filter keeps every accepted record. -/
theorem WidensTo.judge (h : f.WidensTo g) (hf : f.Sieving) (hg : g.Sieving) {record : ρ}
    (ha : f.judge record = .ok true) : g.judge record = .ok true := by
  rw [judge_of_enabled hf.enabled hf.ascending.lower_le_upper, Except.ok.injEq,
    decide_eq_true_iff, selects_iff] at ha
  obtain ⟨raw, hraw, hzero, hv⟩ := ha
  rw [judge_of_enabled hg.enabled hg.ascending.lower_le_upper, Except.ok.injEq,
    decide_eq_true_iff, selects_iff, h.gauge_eq]
  refine ⟨raw, hraw, hzero, ?_⟩
  have hnormalize : g.normalize raw = f.normalize raw := by
    rw [normalize, normalize, h.gauge_eq, h.coefficient_eq]
  rw [hnormalize]
  exact h.range.accepts hf.ascending hg.ascending hv

/-- What a filter keeps of a list, a wider one keeps in the same order. -/
theorem WidensTo.accepted (h : f.WidensTo g) (hf : f.Sieving) (hg : g.Sieving)
    (records : List ρ) :
    ∃ xs ys, f.accepted records = .ok xs ∧ g.accepted records = .ok ys ∧ xs.Sublist ys := by
  have hxs : f.accepted records = .ok (records.filter fun record => f.judge record = .ok true) :=
    accepted_eq_ok_filter fun record _ => exists_judge_eq_ok hf.ascending.lower_le_upper record
  have hys : g.accepted records = .ok (records.filter fun record => g.judge record = .ok true) :=
    accepted_eq_ok_filter fun record _ => exists_judge_eq_ok hg.ascending.lower_le_upper record
  refine ⟨_, _, hxs, hys, List.monotone_filter_right records ?_⟩
  intro record ha
  rw [decide_eq_true_iff] at ha ⊢
  exact h.judge hf hg ha

theorem WidensTo.acceptedPositions (h : f.WidensTo g) (hf : f.Sieving) (hg : g.Sieving)
    (records : List ρ) :
    ∃ is js, f.acceptedPositions records = .ok is ∧ g.acceptedPositions records = .ok js ∧
      is.Sublist js := by
  -- the positions are kept with the records, so they are cut down in the same way
  have hthrough : (f.through (Prod.fst (β := Nat))).WidensTo (g.through Prod.fst) := by
    refine ⟨?_, h.coefficient_eq, h.range⟩
    rw [through, through, h.gauge_eq]
  obtain ⟨xs, ys, hxs, hys, hsub⟩ :=
    hthrough.accepted ⟨hf.enabled, hf.ascending⟩ ⟨hg.enabled, hg.ascending⟩ records.zipIdx
  refine ⟨xs.map Prod.snd, ys.map Prod.snd, ?_, ?_, hsub.map Prod.snd⟩
  · rw [RangeFilter.acceptedPositions, hxs]
    rfl
  · rw [RangeFilter.acceptedPositions, hys]
    rfl

/-! ### Runs that widen -/

/-- Each of the edits in order widens the selection that it finds. -/
def WideningRun (f : RangeFilter ρ) : List Edit → Prop
  | [] => True
  | e :: es => e.Widens f.range ∧ (f.apply (.edit e)).1.WideningRun es

theorem Sieving.widensTo_apply {e : Edit} (h : f.Sieving) (he : e.Widens f.range) :
    (f.apply (.edit e)).1.Sieving ∧ f.WidensTo (f.apply (.edit e)).1 := by
  obtain ⟨hasc, henabled, hwidens⟩ := he.edit h.ascending
  rw [← range_apply_edit f e] at hasc henabled hwidens
  exact ⟨⟨henabled.trans h.enabled, hasc⟩,
    ⟨gauge_apply f _, coefficient_apply_edit e, hwidens⟩⟩

theorem Sieving.widensTo_run {es : List Edit} (h : f.Sieving) (hes : f.WideningRun es) :
    (f.run (es.map .edit)).Sieving ∧ f.WidensTo (f.run (es.map .edit)) := by
  induction es generalizing f with
  | nil => exact ⟨h, h.widensTo_refl⟩
  | cons e es ih =>
    obtain ⟨he, hes⟩ := hes
    obtain ⟨hsieving, hwidens⟩ := h.widensTo_apply he
    obtain ⟨hrun, hrest⟩ := ih hsieving hes
    exact ⟨hrun, hwidens.trans hrest⟩

/-- A drag of one slider back to its end, and a reset, widen any selection. -/
theorem Sieving.wideningRun_to_end {e : Edit} (h : f.Sieving)
    (he : e ∈ [.moveLower f.range.floor, .moveUpper f.range.ceiling, .reset]) :
    f.WideningRun [e] := by
  obtain ⟨hfl, -, huc⟩ := h.ascending
  simp only [List.mem_cons, List.not_mem_nil, or_false] at he
  refine ⟨?_, trivial⟩
  rcases he with rfl | rfl | rfl
  · exact ⟨Binary64.le_refl hfl.1, hfl⟩
  · exact ⟨huc, Binary64.le_refl huc.2.1⟩
  · trivial

/-- **A wider selection loses no record.** Let `f` be switched on with its bounds in order, finite
or not. A filter that reads records as `f` does, on the same domain and with a selection that is at
least as wide, accepts every record that `f` accepts, and what `f` keeps of a list of records, it
keeps in the same order and from the same positions. Every run of edits that move a bound outwards
or reset the selection leads to such a filter, and a drag back to an end of the domain is one. -/
theorem accepted_sublist_of_wider (hf : f.Sieving) :
    (∀ g : RangeFilter ρ, g.Sieving → f.WidensTo g →
      (∀ record, f.judge record = .ok true → g.judge record = .ok true) ∧
      (∀ records, ∃ xs ys, f.accepted records = .ok xs ∧ g.accepted records = .ok ys ∧
        xs.Sublist ys) ∧
      ∀ records, ∃ is js, f.acceptedPositions records = .ok is ∧
        g.acceptedPositions records = .ok js ∧ is.Sublist js) ∧
    (∀ es, f.WideningRun es →
      (f.run (es.map .edit)).Sieving ∧ f.WidensTo (f.run (es.map .edit))) ∧
    ∀ e ∈ [.moveLower f.range.floor, .moveUpper f.range.ceiling, .reset], f.WideningRun [e] := by
  refine ⟨?_, fun es => hf.widensTo_run, fun e => hf.wideningRun_to_end⟩
  intro g hg h
  exact ⟨fun record => h.judge hf hg, h.accepted hf hg, h.acceptedPositions hf hg⟩

/-- On a domain without an upper end both bounds go outwards in part, the lower one then to the zero
of the other sign, and at last the selection is reset. -/
theorem accepted_sublist_of_wider_zeros :
    let f : RangeFilter Track := { ofGauge Aspect.uphill.gauge with
      range := ⟨zeroOf false, infinityOf false, .ofNat 300, .ofNat 900, true⟩ }
    let es : List Edit := [.moveLower (.ofNat 200), .moveUpper (infinityOf false),
      .moveLower (zeroOf true), .reset]
    f.Sieving ∧ f.WideningRun es ∧ ∀ records, ∃ xs ys, f.accepted records = .ok xs ∧
      (f.run (es.map .edit)).accepted records = .ok ys ∧ xs.Sublist ys := by
  intro f es
  have hf : f.Sieving := ⟨rfl, by decide +kernel⟩
  have hes : f.WideningRun es :=
    ⟨by decide +kernel, by decide +kernel, by decide +kernel, trivial, trivial⟩
  obtain ⟨hkept, hrun, -⟩ := accepted_sublist_of_wider hf
  obtain ⟨hg, hwidens⟩ := hrun es hes
  exact ⟨hf, hes, (hkept _ hg hwidens).2.1⟩

end RangeFilter

end TrackSieve
