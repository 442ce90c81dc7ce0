import TrackSieve.Filter.Record
import TrackSieve.Proofs.Json.Record
import TrackSieve.Proofs.Range.Ordered

/-!
# Stored ranges read back

A range with finite bounds is read back from its text as it was, bit by bit. A range with another
bound is stored, but it is not read back.
-/

namespace TrackSieve.Range

variable {r : Range}

theorem spellable_toJson (r : Range) : r.toJson.Spellable := by
  apply Json.spellable_ofMembers
  simp only [List.forall_mem_cons, Json.spellable_ofDouble, true_and]
  refine ⟨?_, nofun⟩
  rintro t ht
  cases List.mem_singleton.1 ht
  trivial

theorem fields?_toJson (r : Range) :
    r.toJson.fields? fieldNames = some [("min_value", .ofDouble r.floor),
      ("max_value", .ofDouble r.ceiling), ("value_from", .ofDouble r.lower),
      ("value_to", .ofDouble r.upper), ("enabled", .bool r.enabled)] :=
  Json.fields?_ofMembers rfl (by decide)

theorem ofJson?_toJson (h : ∀ x ∈ r.bounds, x.IsFinite) : ofJson? r.toJson = some r := by
  simp only [bounds, List.forall_mem_cons] at h
  obtain ⟨hfloor, hceiling, hlower, hupper, -⟩ := h
  rw [ofJson?, fields?_toJson]
  simp [Json.required, List.lookup_cons, Json.double?_ofDouble, hfloor, hceiling, hlower, hupper,
    Json.bool?]

/-- **A stored range is read back** as it was, if its bounds are finite. -/
theorem load?_store (h : ∀ x ∈ r.bounds, x.IsFinite) : load? r.store = some r := by
  rw [load?, store, Json.parse?_write (spellable_toJson r), Option.bind_some, ofJson?_toJson h]

/-- A range with a bound that is not finite is not read back. -/
theorem load?_store_eq_none (h : ∃ x ∈ r.bounds, ¬x.IsFinite) : load? r.store = none := by
  rw [load?, store, Json.parse?_write (spellable_toJson r), Option.bind_some, ofJson?,
    fields?_toJson]
  simp only [bounds, List.mem_cons, List.not_mem_nil, or_false, exists_eq_or_imp,
    exists_eq_left] at h
  rcases h with h | h | h | h <;>
    simp [Json.required, List.lookup_cons, Json.double?_ofDouble_eq_none h]

end TrackSieve.Range
