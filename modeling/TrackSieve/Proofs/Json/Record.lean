import TrackSieve.Json.Record
import TrackSieve.Proofs.Json.Number

/-!
# Written records read back

An object that is written from texts and values has these as its fields, each to be found under its
name, and it is spellable if the values are. A field that may be absent is found as absent both when
it was left out and when its double was not finite.
-/

namespace TrackSieve.Json

theorem spellable_tokensOfMembers {members : List (Literal × Json)}
    (h : ∀ m ∈ members, m.2.Spellable) : ∀ t ∈ tokensOfMembers members, t.Spellable := by
  induction members with
  | nil => simp [tokensOfMembers]
  | cons member members ih =>
    have hvalue := h member List.mem_cons_self
    have hrest := ih fun m hm => h m (List.mem_cons_of_mem _ hm)
    cases members with
    | nil =>
      intro t ht
      simp only [tokensOfMembers, List.mem_cons] at ht
      rcases ht with rfl | rfl | ht
      · trivial
      · trivial
      · exact hvalue t ht
    | cons member' members =>
      intro t ht
      simp only [tokensOfMembers, List.cons_append, List.mem_cons, List.mem_append] at ht
      rcases ht with rfl | rfl | ht | rfl | ht
      · trivial
      · trivial
      · exact hvalue t ht
      · trivial
      · exact hrest t ht

theorem spellable_ofMembers {members : List (String × Json)} (h : ∀ m ∈ members, m.2.Spellable) :
    (ofMembers members).Spellable := by
  have hvalues : ∀ m ∈ members.map fun m => ((some m.1 : Literal), m.2), m.2.Spellable := by
    intro m hm
    obtain ⟨m', hm', rfl⟩ := List.mem_map.1 hm
    exact h m' hm'
  have hmembers := spellable_tokensOfMembers hvalues
  intro t ht
  simp only [ofMembers, tokens, List.cons_append, List.mem_cons, List.mem_append,
    List.not_mem_nil, or_false] at ht
  rcases ht with rfl | ht | rfl
  · trivial
  · exact hmembers t ht
  · trivial

theorem textMembers?_map_some (members : List (String × Json)) :
    textMembers? (members.map fun m => (some m.1, m.2)) = some members := by
  induction members with
  | nil => rfl
  | cons member members ih => rw [List.map_cons, textMembers?, ih]; rfl

/-- **A record is read from the object that holds its fields**, if their names are named ones in
order. Some of the named fields may be missing. -/
theorem fields?_ofMembers_of_sublist {names : List String} {members : List (String × Json)}
    (hnames : (members.map Prod.fst).Sublist names) (hnodup : names.Nodup) :
    fields? names (ofMembers members) = some members := by
  have hfilter : (members.filter fun m => names.contains m.1) = members := by
    rw [List.filter_eq_self]
    intro m hm
    rw [List.contains_iff_mem]
    exact hnames.subset (List.mem_map_of_mem hm)
  rw [ofMembers, fields?, textMembers?_map_some]
  simp only [Option.bind_eq_bind, Option.bind_some, hfilter, hnodup.sublist hnames, if_true]

theorem fields?_ofMembers {names : List String} {members : List (String × Json)}
    (hnames : members.map Prod.fst = names) (hnodup : names.Nodup) :
    fields? names (ofMembers members) = some members :=
  fields?_ofMembers_of_sublist (hnames ▸ List.Sublist.refl _) hnodup

/-! ### Single fields -/

section

variable {α : Type} {read? : Json → Option α} {fields : List (String × Json)} {name : String}
  {j : Json}

/-- A name that does not stand twice is found with the field that bears it. -/
theorem lookup_eq_some_iff_mem (h : (fields.map Prod.fst).count name ≤ 1) :
    fields.lookup name = some j ↔ (name, j) ∈ fields := by
  induction fields with
  | nil => simp
  | cons field fields ih =>
    obtain ⟨key, value⟩ := field
    by_cases hkey : key = name
    · subst hkey
      rw [List.map_cons, List.count_cons_self] at h
      have hnot : key ∉ fields.map Prod.fst := List.count_eq_zero.1 (by omega)
      have hmem : (key, j) ∉ fields := fun hm => hnot (List.mem_map_of_mem hm)
      rw [List.lookup_cons_self, List.mem_cons, or_iff_left hmem, Prod.mk.injEq,
        Option.some.injEq]
      exact ⟨fun e => ⟨rfl, e.symm⟩, fun e => e.2.symm⟩
    · rw [List.map_cons, List.count_cons_of_ne hkey] at h
      have hne : (name == key) = false := beq_eq_false_iff_ne.2 (Ne.symm hkey)
      rw [List.lookup_cons, hne, List.mem_cons, Prod.mk.injEq, ← ih h]
      exact ⟨.inr, fun e => e.resolve_left fun e => hkey e.1.symm⟩

/-- Where no name stands twice, every field is found under its name. -/
theorem lookup_of_mem (hmem : (name, j) ∈ fields) (hnodup : (fields.map Prod.fst).Nodup) :
    fields.lookup name = some j :=
  (lookup_eq_some_iff_mem (List.nodup_iff_count_le_one.1 hnodup name)).2 hmem

theorem lookup_of_not_mem (h : name ∉ fields.map Prod.fst) : fields.lookup name = none := by
  rw [List.lookup_eq_none_iff]
  intro field hfield
  rw [bne_iff_ne]
  rintro rfl
  exact h (List.mem_map_of_mem hfield)

theorem required_of_lookup (h : fields.lookup name = some j) :
    required read? fields name = read? j := by
  rw [required, h]
  rfl

theorem optional_of_lookup_eq_none (h : fields.lookup name = none) :
    optional read? fields name = some none := by
  rw [optional, h]

/-- Unless it is `null`, the value of a field that may be absent has to stand for something. -/
theorem optional_of_lookup (h : fields.lookup name = some j) (hj : j ≠ .null) :
    optional read? fields name = (read? j).map some := by
  rw [optional, h]
  cases j with
  | null => exact absurd rfl hj
  | _ => rfl

/-- The value of a double is found as the double, or as absent if it is not finite. -/
theorem optional_of_lookup_ofDouble {x : Binary64} (h : fields.lookup name = some (ofDouble x)) :
    optional double? fields name = some (if x.IsFinite then some x else none) := by
  by_cases hx : x.IsFinite
  · have hne : ofDouble x ≠ .null := by
      rw [ofDouble, if_pos hx]
      simp
    rw [optional_of_lookup h hne, double?_ofDouble hx, if_pos hx]
    rfl
  · rw [optional, h, ofDouble, if_neg hx, if_neg hx]

end

theorem spellable_ofText (s : String) : (ofText s).Spellable := by
  rintro t ht
  cases List.mem_singleton.1 ht
  trivial

end TrackSieve.Json
