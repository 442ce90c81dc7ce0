import TrackSieve.Proofs.Json.Record
import TrackSieve.Track.Record

/-!
# Stored tracks read back

A track is read back from its text with the same name and path and with an analysis exactly if it
had one. Of the quantities those that are finite are read back bit by bit; a quantity that is not
finite was stored as `null` and is absent afterwards.
-/

namespace TrackSieve

/-! ### Analyses -/

namespace Analysis

variable (a : Analysis)

/-- The analysis without the quantities that are not finite. -/
def finitePart : Analysis := ⟨fun q => (a.value? q).filter fun x => x.IsFinite⟩

@[simp] theorem value?_finitePart (q : Quantity) :
    a.finitePart.value? q = (a.value? q).filter fun x => x.IsFinite := rfl

/-- The fields that an analysis stores. -/
def fields : List (String × Json) :=
  Quantity.all.filterMap fun q => (a.value? q).map fun x => (q.name, .ofDouble x)

theorem mem_fields_iff {name : String} {j : Json} :
    (name, j) ∈ a.fields ↔ ∃ q x, a.value? q = some x ∧ q.name = name ∧ Json.ofDouble x = j := by
  simp [fields, Quantity.mem_all, Prod.ext_iff]

/-- The stored quantities are in the order of all quantities. -/
theorem map_fst_fields_sublist :
    (a.fields.map Prod.fst).Sublist (Quantity.all.map Quantity.name) := by
  rw [fields, List.map_filterMap]
  induction Quantity.all with
  | nil => exact List.Sublist.slnil
  | cons q qs ih =>
    cases h : a.value? q with
    | none => simpa [List.filterMap_cons, h] using ih.cons q.name
    | some x => simpa [List.filterMap_cons, h] using ih.cons_cons q.name

theorem nodup_names : (Quantity.all.map Quantity.name).Nodup := by decide

theorem spellable_toJson : a.toJson.Spellable := by
  apply Json.spellable_ofMembers
  rintro ⟨name, j⟩ hm
  obtain ⟨q, x, -, -, rfl⟩ := a.mem_fields_iff.1 hm
  exact Json.spellable_ofDouble x

/-- The field of a quantity is read as the quantity if it is finite, and else as absent. -/
theorem optional_fields (q : Quantity) :
    Json.optional Json.double? a.fields q.name = some (a.finitePart.value? q) := by
  cases h : a.value? q with
  | none =>
    have hnot : q.name ∉ a.fields.map Prod.fst := by
      intro hmem
      obtain ⟨⟨name, j⟩, hm, rfl⟩ := List.mem_map.1 hmem
      obtain ⟨p, x, hx, hname, -⟩ := a.mem_fields_iff.1 hm
      rw [Quantity.name_injective hname, h] at hx
      cases hx
    rw [Json.optional_of_lookup_eq_none (Json.lookup_of_not_mem hnot), value?_finitePart, h]
    rfl
  | some x =>
    have hmem : (q.name, Json.ofDouble x) ∈ a.fields := a.mem_fields_iff.2 ⟨q, x, h, rfl, rfl⟩
    have hlookup := Json.lookup_of_mem hmem (nodup_names.sublist a.map_fst_fields_sublist)
    rw [Json.optional_of_lookup_ofDouble hlookup, value?_finitePart, h, Option.filter_some]
    simp only [decide_eq_true_eq]

theorem ofJson?_toJson : ofJson? a.toJson = some a.finitePart := by
  have hfields : a.toJson.fields? (Quantity.all.map Quantity.name) = some a.fields :=
    Json.fields?_ofMembers_of_sublist a.map_fst_fields_sublist nodup_names
  simp only [ofJson?, hfields, Option.bind_eq_bind, Option.bind_some, optional_fields,
    Option.isSome_some, List.all_eq_true, implies_true, if_true, Option.join_some]

end Analysis

/-! ### Tracks -/

namespace Track

variable (t : Track)

/-- The track without the quantities that are not finite. -/
def finitePart : Track := { t with analysis := t.analysis.map Analysis.finitePart }

theorem value?_finitePart (q : Quantity) :
    t.finitePart.value? q = (t.value? q).filter fun x => x.IsFinite := by
  cases h : t.analysis <;> simp [value?, finitePart, h, Analysis.finitePart]

/-- The fields that a track stores. -/
def fields : List (String × Json) :=
  [("name", .ofText t.name), ("path", .ofText t.path)] ++
    (t.analysis.map fun a => ("analysis", a.toJson)).toList

theorem spellable_toJson : t.toJson.Spellable := by
  apply Json.spellable_ofMembers
  rw [List.forall_mem_append]
  refine ⟨?_, ?_⟩
  · simp [Json.spellable_ofText]
  · intro m hm
    obtain ⟨a, -, rfl⟩ := by simpa using hm
    exact a.spellable_toJson

theorem fields?_toJson : t.toJson.fields? fieldNames = some t.fields := by
  refine Json.fields?_ofMembers_of_sublist ?_ (by decide)
  cases t.analysis with
  | none => exact List.sublist_append_left ["name", "path"] ["analysis"]
  | some a => exact List.Sublist.refl _

theorem lookup_fields_analysis :
    t.fields.lookup "analysis" = t.analysis.map Analysis.toJson := by
  cases h : t.analysis <;> simp [fields, h, List.lookup_cons]

theorem optional_fields_analysis :
    Json.optional Analysis.ofJson? t.fields "analysis" =
      some (t.analysis.map Analysis.finitePart) := by
  have hlookup := t.lookup_fields_analysis
  cases h : t.analysis with
  | none =>
    rw [h] at hlookup
    exact Json.optional_of_lookup_eq_none hlookup
  | some a =>
    rw [h] at hlookup
    rw [Json.optional_of_lookup hlookup nofun, a.ofJson?_toJson]
    rfl

theorem ofJson?_toJson : ofJson? t.toJson = some t.finitePart := by
  have hname : t.fields.lookup "name" = some (.ofText t.name) := by simp [fields]
  have hpath : t.fields.lookup "path" = some (.ofText t.path) := by
    simp [fields, List.lookup_cons]
  simp only [ofJson?, fields?_toJson, Json.required_of_lookup hname, Json.required_of_lookup hpath,
    optional_fields_analysis, Option.bind_eq_bind, Option.bind_some, Option.pure_def]
  rfl

/-- **A stored track is read back** without the quantities that are not finite. -/
theorem load?_store : load? t.store = some t.finitePart := by
  rw [load?, store, Json.parse?_write t.spellable_toJson, Option.bind_some, t.ofJson?_toJson]

end Track

end TrackSieve
