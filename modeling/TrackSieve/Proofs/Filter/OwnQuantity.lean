import TrackSieve.Filter.Run
import TrackSieve.Proofs.Binary64.Order
import TrackSieve.Proofs.Filter.Scan

/-!
# What a filter reads of a track

An analysis is built by setting quantities one after the other, and it holds the last value that was
set for each. Every aspect belongs to a quantity of its own, and its filters see nothing else of a
track: two tracks with equal values of this quantity are judged alike. Values that are equal as
numbers but not bit by bit are zeros, and zeros are rejected whatever their sign.
-/

namespace TrackSieve

/-! ### Settings one after the other -/

namespace Analysis

/-- The last of the values that settings give a quantity. -/
def lastSetting? (q : Quantity) (settings : List (Quantity × Binary64)) : Option Binary64 :=
  (settings.filter fun s => s.1 = q).getLast?.map Prod.snd

variable (settings : List (Quantity × Binary64)) (p q : Quantity) (x : Binary64)

@[simp] theorem ofList_append_singleton :
    ofList (settings ++ [(p, x)]) = (ofList settings).set p x := by
  simp [ofList, List.foldl_append]

@[simp] theorem lastSetting?_append_self :
    lastSetting? q (settings ++ [(q, x)]) = some x := by
  simp [lastSetting?]

theorem lastSetting?_append_of_ne {p q : Quantity} (h : p ≠ q) :
    lastSetting? q (settings ++ [(p, x)]) = lastSetting? q settings := by
  simp [lastSetting?, h]

/-- An analysis holds the last value that was set for a quantity. -/
theorem value?_ofList : (ofList settings).value? q = lastSetting? q settings := by
  induction settings using List.reverseRecOn with
  | nil => rfl
  | append_singleton settings s ih =>
    obtain ⟨p, x⟩ := s
    rw [ofList_append_singleton]
    by_cases h : p = q
    · subst h
      rw [value?_set_self, lastSetting?_append_self]
    · rw [value?_set_of_ne _ (Ne.symm h), lastSetting?_append_of_ne _ _ h, ih]

end Analysis

/-! ### Tracks that are equal in one quantity -/

theorem Track.Same.numEqOption_value? {t u : Track} (h : t.Same u) (q : Quantity) :
    Binary64.NumEqOption (t.value? q) (u.value? q) := by
  obtain ⟨-, -, h⟩ := h
  unfold value?
  cases ht : t.analysis <;> cases hu : u.analysis <;> rw [ht, hu] at h
  · trivial
  · exact h.elim
  · exact h.elim
  · exact h q q.mem_all

namespace RangeFilter

variable {ρ : Type} {f : RangeFilter ρ}

/-- Equal values are selected alike, the two zeros included. -/
theorem selects_iff_of_numEqOption {x? y? : Option Binary64}
    (h : Binary64.NumEqOption x? y?) : f.Selects x? ↔ f.Selects y? := by
  cases x? with
  | none =>
    cases y? with
    | none => exact Iff.rfl
    | some y => exact h.elim
  | some x =>
    cases y? with
    | none => exact h.elim
    | some y =>
      rcases Binary64.NumEq.eq_or_isZero h with rfl | ⟨hx, hy⟩
      · exact Iff.rfl
      · exact iff_of_false (fun hs => hs.1 hx) (fun hs => hs.1 hy)

end RangeFilter

/-! ### One quantity for every aspect -/

namespace Aspect

/-- The name of every aspect with the name of the quantity that belongs to it. -/
def quantityNames : List (String × String) := [
  ("length", "total_distance"),
  ("max_speed", "max_speed"),
  ("average_speed", "avg_speed"),
  ("duration", "time_span"),
  ("time_in_motion", "time_moving"),
  ("max_altitude", "max_elevation"),
  ("average_altitude", "avg_elevation"),
  ("uphill", "diff_elevation_up"),
  ("downhill", "diff_elevation_down")]

/-- Every aspect is read from the quantity that is listed for it. -/
theorem quantity_listed (a : Aspect) : (a.name, a.quantity.name) ∈ quantityNames := by
  cases a <;> decide

/-- **Every filter reads its own quantity and nothing else.** For every aspect there is a quantity,
listed under its name, with the following property. Whatever settings an analysis is built from, in
whatever order, and whatever a track is called, the value for the aspect is the last one that was
set for this quantity; it is absent if there is none, or no analysis. A filter of the aspect, in
whatever state, judges two tracks alike if their values are both absent, or equal as numbers; and so
it judges equal tracks alike. -/
theorem judge_reads_own_quantity (a : Aspect) :
    ∃ q : Quantity, (a.name, q.name) ∈ quantityNames ∧
      (∀ (settings : List (Quantity × Binary64)) (name path : String),
        a.gauge.extract ⟨name, path, some (.ofList settings)⟩ =
          Analysis.lastSetting? q settings) ∧
      (∀ name path : String, a.gauge.extract ⟨name, path, none⟩ = none) ∧
      (∀ (f : RangeFilter Track) (t u : Track), f.gauge = a.gauge →
        Binary64.NumEqOption (a.gauge.extract t) (a.gauge.extract u) → f.judge t = f.judge u) ∧
      ∀ (f : RangeFilter Track) (t u : Track), f.gauge = a.gauge →
        t.Same u → f.judge t = f.judge u := by
  have hjudge : ∀ (f : RangeFilter Track) (t u : Track), f.gauge = a.gauge →
      Binary64.NumEqOption (a.gauge.extract t) (a.gauge.extract u) → f.judge t = f.judge u := by
    intro f t u hgauge h
    apply RangeFilter.judge_eq_of_selects_iff
    rw [hgauge]
    exact RangeFilter.selects_iff_of_numEqOption h
  refine ⟨a.quantity, a.quantity_listed, ?_, fun _ _ => rfl, hjudge, ?_⟩
  · intro settings name path
    exact Analysis.value?_ofList settings a.quantity
  · intro f t u hgauge h
    exact hjudge f t u hgauge (h.numEqOption_value? a.quantity)

/-- The distance is set twice, and another quantity after it. A track with another name, a distance
of the other zero and no speed is judged like the first, and so is one that is equal to the first;
only the filter of the speed tells the first two apart. -/
theorem judge_reads_own_quantity_zeros :
    let t : Track := ⟨"a", "a.gpx", some (.ofList
      [(.totalDistance, .ofNat 5000), (.totalDistance, .zeroOf true), (.maxSpeed, .ofNat 8)])⟩
    let u : Track := ⟨"b", "b.gpx", some (.ofList
      [(.ascent, .nan), (.totalDistance, .zeroOf false)])⟩
    let v : Track := ⟨"a", "a.gpx", some (.ofList
      [(.maxSpeed, .ofNat 8), (.totalDistance, .zeroOf false)])⟩
    let f := (RangeFilter.ofGauge length.gauge).run [.edit (.enable true)]
    let g := (RangeFilter.ofGauge maxSpeed.gauge).run [.edit (.enable true)]
    length.gauge.extract t = some (.zeroOf true) ∧ t.Same v ∧ g.judge t ≠ g.judge u ∧
      f.judge t = f.judge u ∧ f.judge t = f.judge v := by
  intro t u v f g
  obtain ⟨q, -, -, -, hvalue, hsame⟩ := judge_reads_own_quantity length
  have hvalues : Binary64.NumEqOption (length.gauge.extract t) (length.gauge.extract u) := by
    decide +kernel
  have htracks : t.Same v := by decide +kernel
  have hspeeds : g.judge t = .ok true ∧ g.judge u = .ok false := by decide +kernel
  refine ⟨by decide +kernel, htracks, ?_, hvalue f t u rfl hvalues, hsame f t v rfl htracks⟩
  rw [hspeeds.1, hspeeds.2]
  nofun

end Aspect

end TrackSieve
