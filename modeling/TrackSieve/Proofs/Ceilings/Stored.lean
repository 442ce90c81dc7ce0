import TrackSieve.Ceilings.Record
import TrackSieve.Proofs.Ceilings.Load
import TrackSieve.Proofs.Range.Stored

/-!
# Stored ceilings read back

Ceilings are read back from their text bit by bit if all of them are finite, and otherwise they are
not read back at all, like the bounds of a range. Nothing that passes its check is lost or altered.
-/

namespace TrackSieve

open Binary64

namespace Ceilings

variable (c : Ceilings)

/-- The fields that ceilings store. -/
def fields : List (String × Json) :=
  Ceiling.all.map (fun k => (k.name, .ofDouble (c.limit k))) ++
    [(systemField, .ofText c.system.name)]

theorem map_fst_fields : c.fields.map Prod.fst = fieldNames := rfl

theorem nodup_fieldNames : fieldNames.Nodup := by decide

theorem spellable_toJson : c.toJson.Spellable := by
  apply Json.spellable_ofMembers
  rw [List.forall_mem_append]
  refine ⟨?_, ?_⟩
  · simp [Json.spellable_ofDouble]
  · simp [Json.spellable_ofText]

theorem fields?_toJson : c.toJson.fields? fieldNames = some c.fields :=
  Json.fields?_ofMembers c.map_fst_fields nodup_fieldNames

theorem lookup_fields (k : Ceiling) : c.fields.lookup k.name = some (.ofDouble (c.limit k)) := by
  refine Json.lookup_of_mem ?_ (c.map_fst_fields ▸ nodup_fieldNames)
  exact List.mem_append_left _ (List.mem_map_of_mem (Ceiling.mem_all k))

theorem lookup_fields_system :
    c.fields.lookup systemField = some (.ofText c.system.name) := by
  refine Json.lookup_of_mem ?_ (c.map_fst_fields ▸ nodup_fieldNames)
  exact List.mem_append_right _ List.mem_cons_self

/-- **Stored ceilings are read back** as they were, or refused if one of them is not finite. -/
theorem load?_store :
    load? c.store = if ∀ k ∈ Ceiling.all, (c.limit k).IsFinite then some c else none := by
  have hsome : (Ceiling.all.all fun k => (Json.double? (.ofDouble (c.limit k))).isSome) =
      decide (∀ k ∈ Ceiling.all, (c.limit k).IsFinite) := by
    rw [Bool.eq_iff_iff, List.all_eq_true, decide_eq_true_iff]
    simp only [Json.isSome_double?_ofDouble]
  rw [load?, store, Json.parse?_write c.spellable_toJson, Option.bind_some, ofJson?,
    c.fields?_toJson]
  simp only [Option.bind_eq_bind, Option.bind_some, Json.required_of_lookup (c.lookup_fields _),
    Json.required_of_lookup c.lookup_fields_system, Json.choice?_ofText,
    MeasurementSystem.ofName?_name, hsome, decide_eq_true_eq]
  split
  · rename_i h
    refine congrArg some (Ceilings.ext ?_ rfl)
    intro k
    show (Json.double? (.ofDouble (c.limit k))).getD default = c.limit k
    rw [Json.double?_ofDouble (h k (Ceiling.mem_all k)), Option.getD_some]
  · rfl

end Ceilings

/-- **Stored values come back exactly or not at all.** A range, and the ceilings of a deployment,
are read back from their text bit by bit in every field if all their numbers are finite, and are
refused if one is not. So every range that passes the check of its bounds and all ceilings that pass
theirs are kept exactly. -/
theorem stored_exactly_or_refused :
    (∀ r : Range, Range.load? r.store =
      if ∀ x ∈ r.bounds, x.IsFinite then some r else none) ∧
    (∀ c : Ceilings, Ceilings.load? c.store =
      if ∀ k ∈ Ceiling.all, (c.limit k).IsFinite then some c else none) ∧
    (∀ (r : Range) (a : Aspect), r.checkBounds a = .ok () → Range.load? r.store = some r) ∧
    ∀ c : Ceilings, c.check = .ok () → Ceilings.load? c.store = some c := by
  refine ⟨?_, Ceilings.load?_store, ?_, ?_⟩
  · intro r
    split
    · exact Range.load?_store ‹_›
    · rename_i h
      push Not at h
      exact Range.load?_store_eq_none h
  · intro r a h
    exact Range.load?_store (Range.checkBounds_eq_ok_iff.1 h).isFinite_of_mem
  · intro c h
    rw [c.load?_store, if_pos]
    exact fun k _ => (Ceilings.check_eq_ok_iff.1 h k).1

/-- Bounds of one step apart with zeros of either sign, and the greatest and the least ceiling that
there is. -/
theorem stored_exactly_or_refused_neighbours :
    let r : Range := ⟨zeroOf true, .ofNat 300, zeroOf false, (Binary64.ofNat 300).nextDown, true⟩
    let limit : Ceiling → Binary64 := fun k =>
      if k = .length then (infinityOf false).nextDown else ofBits 1
    let c : Ceilings := ⟨limit, .milesAndFeet⟩
    r.checkBounds .maxSpeed = .ok () ∧ Range.load? r.store = some r ∧
      c.check = .ok () ∧ Ceilings.load? c.store = some c := by
  intro r limit c
  have hr : r.checkBounds .maxSpeed = .ok () :=
    Range.checkBounds_eq_ok_iff.2 (Range.inOrder_iff_ordered.1 (by decide +kernel))
  have hc : c.check = .ok () := by
    rw [Ceilings.check_eq_ok_iff]
    rintro (_ | _ | _ | _ | _) <;> decide
  obtain ⟨-, -, hrange, hceilings⟩ := stored_exactly_or_refused
  exact ⟨hr, hrange r .maxSpeed hr, hc, hceilings c hc⟩

end TrackSieve
