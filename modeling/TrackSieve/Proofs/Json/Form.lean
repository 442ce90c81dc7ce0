import Mathlib.Data.List.Forall2
import TrackSieve.Proofs.Json.Record

/-!
# Forms of records

A form lists the fields of a record. A value is of the form if it is an object with texts for keys
in which no field occurs twice, every field that must not be left out occurs, and every field that
occurs has a value of its type; or an array with one value of the right type for every field, in
order. A reader that yields just the record that a value shows, field by field, accepts exactly the
values of the form. It cannot tell an object from the same members in another order, with members of
other names among them, from the array of the values of its fields, or from an object in which a
field that was left out is `null`.
-/

namespace TrackSieve.Json

variable {ρ α : Type}

/-- A field of a stored record: its name, whether it may be left out, and which values show what a
record has in it. -/
structure Field (ρ : Type) where
  name : String
  mayBeAbsent : Bool
  Shows : Json → ρ → Prop

/-- A value is of the type of a field if it shows what some record has there. -/
def Field.Takes (f : Field ρ) (j : Json) : Prop := ∃ r, f.Shows j r

/-- A value is of the form of a record. -/
inductive HasForm (form : List (Field ρ)) : Json → Prop
  | array {items : List Json} (typed : List.Forall₂ Field.Takes form items) :
    HasForm form (.array items)
  | object {members : List (String × Json)}
    (once : ∀ f ∈ form, (members.map Prod.fst).count f.name ≤ 1)
    (present : ∀ f ∈ form, f.mayBeAbsent = false → f.name ∈ members.map Prod.fst)
    (typed : ∀ f ∈ form, ∀ j, (f.name, j) ∈ members → f.Takes j) :
    HasForm form (.ofMembers members)

/-- The value under a name, `null` if there is none. -/
def valueIn (members : List (String × Json)) (name : String) : Json :=
  (members.lookup name).getD .null

/-- What a value has for each field has a property; `null` stands in for what was left out. -/
inductive EachField (form : List (Field ρ)) (P : Field ρ → Json → Prop) : Json → Prop
  | array {items : List Json} (h : List.Forall₂ P form items) : EachField form P (.array items)
  | object {members : List (String × Json)}
    (once : ∀ f ∈ form, (members.map Prod.fst).count f.name ≤ 1)
    (h : ∀ f ∈ form, P f (valueIn members f.name)) : EachField form P (.ofMembers members)

/-- A value shows a record: it has for every field what the record has there. -/
def Represents (form : List (Field ρ)) (j : Json) (r : ρ) : Prop :=
  EachField form (fun f j => f.Shows j r) j

/-- A form is free if no name occurs twice in it, just the fields that may be left out may be
`null`, and values of the right types, whatever they are, are those of some record. -/
structure Free (form : List (Field ρ)) : Prop where
  nodup : (form.map Field.name).Nodup
  takes_null_iff : ∀ f ∈ form, f.Takes .null ↔ f.mayBeAbsent = true
  exists_record : ∀ v : String → Json, (∀ f ∈ form, f.Takes (v f.name)) →
    ∃ r, ∀ f ∈ form, f.Shows (v f.name) r

/-- A reader of records goes by a form, however a record is presented. It succeeds exactly on the
values of the form and yields the record that a value shows, field by field. Neither the order of
the members of an object matters nor members of other names, whatever values they have. An object is
read like the array of the values of its fields, and a field that is left out like one that is
`null`. -/
structure ReadsForm (form : List (Field ρ)) (read? : Json → Option ρ) : Prop where
  isSome_iff : ∀ j, (read? j).isSome ↔ HasForm form j
  eq_some_iff : ∀ j r, read? j = some r ↔ Represents form j r
  of_perm : ∀ members members' extra : List (String × Json),
    (∀ m ∈ extra, ∀ f ∈ form, m.1 ≠ f.name) → members'.Perm (members ++ extra) →
    read? (.ofMembers members') = read? (.ofMembers members)
  of_array : ∀ members : List (String × Json),
    (∀ f ∈ form, (members.map Prod.fst).count f.name ≤ 1) →
    read? (.ofMembers members) = read? (.array (form.map fun f => valueIn members f.name))
  of_absent : ∀ (members : List (String × Json)), ∀ f ∈ form, f.name ∉ members.map Prod.fst →
    read? (.ofMembers ((f.name, .null) :: members)) = read? (.ofMembers members)

/-! ### Members -/

section Members

variable {members : List (String × Json)} {names : List String} {name : String} {j : Json}

theorem valueIn_of_mem (h : (members.map Prod.fst).count name ≤ 1) (hm : (name, j) ∈ members) :
    valueIn members name = j := by
  rw [valueIn, (lookup_eq_some_iff_mem h).2 hm]
  rfl

theorem valueIn_of_not_mem (h : name ∉ members.map Prod.fst) : valueIn members name = .null := by
  rw [valueIn, lookup_of_not_mem h]
  rfl

/-- The members of a few names hold the same value under each of these. -/
theorem lookup_filter (h : name ∈ names) :
    (members.filter fun m => names.contains m.1).lookup name = members.lookup name := by
  induction members with
  | nil => rfl
  | cons m members ih =>
    obtain ⟨key, value⟩ := m
    simp only [List.filter_cons]
    split
    · rw [List.lookup_cons, List.lookup_cons, ih]
    · rename_i hkey
      have hne : (name == key) = false := by
        rw [beq_eq_false_iff_ne]
        rintro rfl
        exact hkey (List.contains_iff_mem.2 h)
      rw [List.lookup_cons, hne, ih]

theorem nodup_filter_iff :
    ((members.filter fun m => names.contains m.1).map Prod.fst).Nodup ↔
      ∀ name ∈ names, (members.map Prod.fst).count name ≤ 1 := by
  have hfilter : (members.filter fun m => names.contains m.1).map Prod.fst =
      (members.map Prod.fst).filter names.contains := by
    rw [List.filter_map]
    rfl
  rw [hfilter, List.nodup_iff_count_le_one]
  constructor
  · intro h name hname
    rw [← List.count_filter (p := names.contains) (List.contains_iff_mem.2 hname)]
    exact h name
  · intro h name
    by_cases hname : name ∈ names
    · rw [List.count_filter (List.contains_iff_mem.2 hname)]
      exact h name hname
    · have hnot : name ∉ (members.map Prod.fst).filter names.contains := fun hm =>
        hname (List.contains_iff_mem.1 (List.mem_filter.1 hm).2)
      rw [List.count_eq_zero_of_not_mem hnot]
      exact Nat.zero_le 1

/-- The members of an object are given by texts exactly if all of its keys denote texts. -/
theorem textMembers?_eq_some_iff {literals : List (Literal × Json)} :
    textMembers? literals = some members ↔ literals = members.map fun m => (some m.1, m.2) := by
  constructor
  · intro h
    induction literals generalizing members with
    | nil =>
      cases h
      rfl
    | cons literal literals ih =>
      obtain ⟨key, value⟩ := literal
      cases key with
      | none => cases h
      | some key =>
        obtain ⟨rest, hrest, rfl⟩ := Option.map_eq_some_iff.1 h
        rw [ih hrest, List.map_cons]
  · rintro rfl
    exact textMembers?_map_some members

/-- The fields of an object are its members of the given names, if none of these occurs twice. -/
theorem fields?_ofMembers_eq_some_iff {fs : List (String × Json)} :
    fields? names (ofMembers members) = some fs ↔
      (∀ name ∈ names, (members.map Prod.fst).count name ≤ 1) ∧
        (members.filter fun m => names.contains m.1) = fs := by
  rw [ofMembers, fields?, textMembers?_map_some]
  simp only [Option.bind_eq_bind, Option.bind_some, nodup_filter_iff, Option.ite_none_right_eq_some,
    Option.some.injEq]

end Members

/-! ### Fields -/

section EachField

variable {form : List (Field ρ)} {P : Field ρ → Json → Prop} {items : List Json}
  {members : List (String × Json)}

theorem eachField_array_iff : EachField form P (.array items) ↔ List.Forall₂ P form items := by
  constructor
  · rintro ⟨h⟩
    exact h
  · exact .array

/-- An object that has values for fields has texts for keys. -/
theorem EachField.exists_members {literals : List (Literal × Json)}
    (h : EachField form P (.object literals)) :
    ∃ members : List (String × Json), literals = members.map (fun m => (some m.1, m.2)) ∧
      (∀ f ∈ form, (members.map Prod.fst).count f.name ≤ 1) ∧
        ∀ f ∈ form, P f (valueIn members f.name) := by
  generalize hj : Json.object literals = j at h
  cases h with
  | array h => cases hj
  | @object members once h => exact ⟨members, Json.object.inj hj, once, h⟩

theorem eachField_ofMembers_iff :
    EachField form P (.ofMembers members) ↔
      (∀ f ∈ form, (members.map Prod.fst).count f.name ≤ 1) ∧
        ∀ f ∈ form, P f (valueIn members f.name) := by
  constructor
  · intro h
    obtain ⟨members', hmap, hfields⟩ := EachField.exists_members h
    have hmembers : some members = some members' := by
      rw [← textMembers?_map_some members, hmap, textMembers?_map_some]
    rwa [Option.some.inj hmembers]
  · rintro ⟨once, h⟩
    exact .object once h

/-- The items of an array are the values of the fields under their names. -/
theorem forall₂_iff_zip (hnodup : (form.map Field.name).Nodup) :
    List.Forall₂ P form items ↔ items.length = form.length ∧
      ∀ f ∈ form, P f (valueIn ((form.map Field.name).zip items) f.name) := by
  induction form generalizing items with
  | nil => simp
  | cons f form ih =>
    obtain ⟨hnot, hnodup⟩ := List.nodup_cons.1 hnodup
    cases items with
    | nil => simp
    | cons item items =>
      have hself : valueIn (((f :: form).map Field.name).zip (item :: items)) f.name = item := by
        rw [List.map_cons, List.zip_cons_cons, valueIn, List.lookup_cons_self]
        rfl
      have hrest : ∀ g ∈ form, valueIn (((f :: form).map Field.name).zip (item :: items)) g.name =
          valueIn ((form.map Field.name).zip items) g.name := by
        intro g hg
        have hne : (g.name == f.name) = false := by
          rw [beq_eq_false_iff_ne]
          exact fun e => hnot (e ▸ List.mem_map_of_mem hg)
        rw [List.map_cons, List.zip_cons_cons, valueIn, List.lookup_cons, hne, valueIn]
      rw [List.forall₂_cons, ih hnodup, List.forall_mem_cons, hself, List.length_cons,
        List.length_cons, Nat.succ_inj, and_left_comm]
      exact and_congr_right' (and_congr_right' (forall₂_congr fun g hg => by rw [hrest g hg]))

/-- **The fields of a value are those that its reader finds**, each under its name. -/
theorem eachField_iff (hnodup : (form.map Field.name).Nodup) {j : Json} :
    EachField form P j ↔ ∃ fs, fields? (form.map Field.name) j = some fs ∧
      ∀ f ∈ form, P f (valueIn fs f.name) := by
  cases j with
  | array items =>
    rw [eachField_array_iff, forall₂_iff_zip hnodup]
    simp only [fields?, List.length_map, Option.ite_none_right_eq_some, Option.some.injEq]
    constructor
    · rintro ⟨hlength, h⟩
      exact ⟨_, ⟨hlength, rfl⟩, h⟩
    · rintro ⟨fs, ⟨hlength, rfl⟩, h⟩
      exact ⟨hlength, h⟩
  | object literals =>
    cases htext : textMembers? literals with
    | none =>
      -- a key that denotes no text bars the object from both sides
      constructor
      · intro h
        obtain ⟨members, rfl, -⟩ := h.exists_members
        rw [textMembers?_map_some] at htext
        cases htext
      · rintro ⟨fs, hfs, -⟩
        rw [fields?, htext] at hfs
        cases hfs
    | some members =>
      rw [textMembers?_eq_some_iff.1 htext, ← ofMembers, eachField_ofMembers_iff]
      simp only [fields?_ofMembers_eq_some_iff, List.forall_mem_map]
      have hvalue : ∀ f ∈ form, valueIn (members.filter fun m =>
          (form.map Field.name).contains m.1) f.name = valueIn members f.name := by
        intro f hf
        rw [valueIn, lookup_filter (List.mem_map_of_mem hf), valueIn]
      constructor
      · rintro ⟨once, h⟩
        exact ⟨_, ⟨once, rfl⟩, fun f hf => by rw [hvalue f hf]; exact h f hf⟩
      · rintro ⟨fs, ⟨once, rfl⟩, h⟩
        exact ⟨once, fun f hf => by rw [← hvalue f hf]; exact h f hf⟩
  | _ =>
    constructor
    · rintro ⟨⟩
    · rintro ⟨fs, hfs, -⟩
      cases hfs

/-- A value is of a form exactly if what it has for each field is of the type of the field. -/
theorem hasForm_iff (hnull : ∀ f ∈ form, f.Takes .null ↔ f.mayBeAbsent = true) {j : Json} :
    HasForm form j ↔ EachField form Field.Takes j := by
  constructor
  · rintro (typed | @⟨members, once, present, typed⟩)
    · exact .array typed
    · refine .object once fun f hf => ?_
      by_cases hmem : f.name ∈ members.map Prod.fst
      · obtain ⟨⟨name, j⟩, hm, hname⟩ := List.mem_map.1 hmem
        cases hname
        rw [valueIn_of_mem (once f hf) hm]
        exact typed f hf j hm
      · -- what was left out counts as `null`, which such a field takes
        rw [valueIn_of_not_mem hmem, hnull f hf, ← Bool.not_eq_false]
        exact fun hfalse => hmem (present f hf hfalse)
  · rintro (h | @⟨members, once, h⟩)
    · exact .array h
    · refine .object once (fun f hf hfalse => ?_) fun f hf j hm => ?_
      · by_contra hmem
        have htakes := h f hf
        rw [valueIn_of_not_mem hmem, hnull f hf, hfalse] at htakes
        cases htakes
      · rw [← valueIn_of_mem (once f hf) hm]
        exact h f hf

end EachField

/-! ### Other presentations -/

section Presentations

variable {form : List (Field ρ)} {P : Field ρ → Json → Prop}
  {members members' extra : List (String × Json)} {name : String}

theorem count_of_perm (hextra : ∀ m ∈ extra, m.1 ≠ name)
    (hperm : members'.Perm (members ++ extra)) :
    (members'.map Prod.fst).count name = (members.map Prod.fst).count name := by
  have hnot : name ∉ extra.map Prod.fst := by
    intro hmem
    obtain ⟨m, hm, rfl⟩ := List.mem_map.1 hmem
    exact hextra m hm rfl
  rw [(hperm.map Prod.fst).count_eq, List.map_append, List.count_append,
    List.count_eq_zero_of_not_mem hnot, Nat.add_zero]

theorem valueIn_of_perm (hextra : ∀ m ∈ extra, m.1 ≠ name)
    (hperm : members'.Perm (members ++ extra))
    (once : (members.map Prod.fst).count name ≤ 1) :
    valueIn members' name = valueIn members name := by
  have hlookup : members'.lookup name = members.lookup name := by
    refine Option.ext fun j => ?_
    have honly : (name, j) ∉ extra := fun hm => hextra _ hm rfl
    rw [lookup_eq_some_iff_mem ((count_of_perm hextra hperm).trans_le once),
      lookup_eq_some_iff_mem once, hperm.mem_iff, List.mem_append, or_iff_left honly]
  rw [valueIn, hlookup, valueIn]

/-- Neither the order of members matters nor members of other names. -/
theorem eachField_of_perm (hextra : ∀ m ∈ extra, ∀ f ∈ form, m.1 ≠ f.name)
    (hperm : members'.Perm (members ++ extra)) :
    EachField form P (.ofMembers members') ↔ EachField form P (.ofMembers members) := by
  rw [eachField_ofMembers_iff, eachField_ofMembers_iff]
  have hcount : ∀ f ∈ form,
      (members'.map Prod.fst).count f.name = (members.map Prod.fst).count f.name :=
    fun f hf => count_of_perm (fun m hm => hextra m hm f hf) hperm
  constructor
  · rintro ⟨once, h⟩
    have once' := fun f hf => (hcount f hf).symm.trans_le (once f hf)
    refine ⟨once', fun f hf => ?_⟩
    rw [← valueIn_of_perm (fun m hm => hextra m hm f hf) hperm (once' f hf)]
    exact h f hf
  · rintro ⟨once, h⟩
    refine ⟨fun f hf => (hcount f hf).trans_le (once f hf), fun f hf => ?_⟩
    rw [valueIn_of_perm (fun m hm => hextra m hm f hf) hperm (once f hf)]
    exact h f hf

theorem eachField_array_values_iff (once : ∀ f ∈ form, (members.map Prod.fst).count f.name ≤ 1) :
    EachField form P (.array (form.map fun f => valueIn members f.name)) ↔
      EachField form P (.ofMembers members) := by
  rw [eachField_array_iff, eachField_ofMembers_iff, List.forall₂_map_right_iff,
    List.forall₂_same, and_iff_right once]

/-- A field that is left out may as well be `null`. -/
theorem eachField_cons_null (hname : name ∉ members.map Prod.fst) :
    EachField form P (.ofMembers ((name, .null) :: members)) ↔
      EachField form P (.ofMembers members) := by
  rw [eachField_ofMembers_iff, eachField_ofMembers_iff]
  have hcount : ∀ other, (((name, Json.null) :: members).map Prod.fst).count other ≤ 1 ↔
      (members.map Prod.fst).count other ≤ 1 := by
    intro other
    by_cases hother : name = other
    · subst hother
      rw [List.map_cons, List.count_cons_self, List.count_eq_zero_of_not_mem hname]
      simp
    · rw [List.map_cons, List.count_cons_of_ne hother]
  have hvalue : ∀ other, valueIn ((name, .null) :: members) other = valueIn members other := by
    intro other
    by_cases hother : other = name
    · subst hother
      rw [valueIn_of_not_mem hname, valueIn, List.lookup_cons_self]
      rfl
    · rw [valueIn, List.lookup_cons, beq_eq_false_iff_ne.2 hother, valueIn]
  simp only [hcount, hvalue]

end Presentations

/-- **A reader that yields just the record that a value shows goes by the form** of the record,
however the record is presented. -/
theorem ReadsForm.of_represents {form : List (Field ρ)} {read? : Json → Option ρ}
    (hform : Free form) (h : ∀ j r, read? j = some r ↔ Represents form j r) :
    ReadsForm form read? := by
  have read_congr : ∀ {j j'}, (∀ r, Represents form j r ↔ Represents form j' r) →
      read? j = read? j' := by
    intro j j' hr
    exact Option.ext fun r => by rw [h, h, hr]
  refine ⟨fun j => ?_, h, ?_, ?_, ?_⟩
  · -- the fields are free, so values of the right types are those of one record
    rw [hasForm_iff hform.takes_null_iff, eachField_iff hform.nodup, Option.isSome_iff_exists]
    simp only [h, Represents, eachField_iff hform.nodup]
    constructor
    · rintro ⟨r, fs, hfs, hr⟩
      exact ⟨fs, hfs, fun f hf => ⟨r, hr f hf⟩⟩
    · rintro ⟨fs, hfs, htakes⟩
      obtain ⟨r, hr⟩ := hform.exists_record (valueIn fs) htakes
      exact ⟨r, fs, hfs, hr⟩
  · exact fun members members' extra hextra hperm =>
      read_congr fun r => eachField_of_perm hextra hperm
  · exact fun members once => read_congr fun r => (eachField_array_values_iff once).symm
  · exact fun members f _ hname => read_congr fun r => eachField_cons_null hname

/-- A reader that finds the fields of a record and builds the record from their values goes by the
form if the record it builds is just the one that these values show. -/
theorem ReadsForm.of_build {form : List (Field ρ)} {read? : Json → Option ρ}
    {build? : List (String × Json) → Option ρ} (hform : Free form)
    (hread : ∀ j, read? j = (fields? (form.map Field.name) j).bind build?)
    (hbuild : ∀ fs r, build? fs = some r ↔ ∀ f ∈ form, f.Shows (valueIn fs f.name) r) :
    ReadsForm form read? := by
  refine .of_represents hform fun j r => ?_
  rw [hread, Option.bind_eq_some_iff, Represents, eachField_iff hform.nodup]
  simp only [hbuild]

end TrackSieve.Json
