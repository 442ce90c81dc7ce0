import TrackSieve.Proofs.Json.Document

/-!
# Written numbers read back

Whatever a layout writes for a finite double is spelled as JSON demands: the digits of the shortest
decimal do not start with a zero, and where they all stand behind the point a single zero is put
before it. The number that is read from the JSON layout is the double itself.
-/

namespace TrackSieve

namespace Layout

variable (l : Layout)

theorem spellable_place (negative : Bool) {digits : List Digit} {d : Digit}
    (hhead : digits.head? = some d) (hd : d ≠ .zero) (point : Int) :
    (l.place negative digits point).Spellable := by
  obtain ⟨ds, rfl⟩ : ∃ ds, digits = d :: ds := by
    cases digits with
    | nil => cases hhead
    | cons e ds => exact ⟨ds, by rw [Option.some.inj hhead]⟩
  unfold place
  split
  · -- either a zero is put before the point or the first digit stands there
    cases hpoint : point.toNat with
    | zero => simp [Numeral.Spellable]
    | succ k => simp [Numeral.Spellable, hd]
  · exact ⟨List.cons_ne_nil _ _, fun _ => rfl⟩

theorem spellable_place_zero (negative : Bool) : (l.place negative [.zero] 1).Spellable := by
  unfold place
  split <;> exact ⟨List.cons_ne_nil _ _, fun _ => rfl⟩

/-- **What a layout writes for a finite double is spellable.** -/
theorem spellable_numeral {x : Binary64} (h : x.IsFinite) : (l.numeral x).Spellable := by
  unfold numeral
  split
  · exact spellable_place_zero l x.negative
  · rename_i hz
    have hpos := Decimal.coefficient_shortest_pos (x := { x with negative := false }) rfl h hz
    obtain ⟨d, hhead, hd⟩ := Digit.head?_ofNat hpos
    exact spellable_place l x.negative hhead hd _

end Layout

namespace Json

/-- **The value of a finite double stands for the double**, the sign of a zero included. -/
theorem double?_ofDouble {x : Binary64} (h : x.IsFinite) : double? (ofDouble x) = some x := by
  rw [ofDouble, if_pos h, double?, nearest_numeral, Layout.json.toBinary64_numeral h, if_pos h]

theorem spellable_ofDouble (x : Binary64) : (ofDouble x).Spellable := by
  unfold ofDouble
  split
  · rename_i hx
    rintro t ht
    cases List.mem_singleton.1 ht
    exact Layout.json.spellable_numeral hx
  · rintro t ht
    cases List.mem_singleton.1 ht
    trivial

/-- What is not finite is written as `null` and stands for no double. -/
theorem double?_ofDouble_eq_none {x : Binary64} (h : ¬x.IsFinite) :
    double? (ofDouble x) = none := by
  rw [ofDouble, if_neg h]
  rfl

theorem isSome_double?_ofDouble (x : Binary64) : (double? (ofDouble x)).isSome ↔ x.IsFinite := by
  by_cases h : x.IsFinite
  · simp [double?_ofDouble h, h]
  · simp [double?_ofDouble_eq_none h, h]

end Json

end TrackSieve
