import TrackSieve.Ceilings.Record
import TrackSieve.Filter.Record
import TrackSieve.Proofs.Json.Form
import TrackSieve.Track.Record

/-!
# The forms of stored records

Ranges, analyses, tracks and ceilings are read field by field, and no reader of a single value takes
`null`. So a required field that is `null` is refused like one that was left out, and in a field
that may be left out `null` says the same as nothing. Each of the four readers therefore yields just
the record that a value shows and goes by the form of its record.
-/

namespace TrackSieve

namespace Json

variable {ρ α : Type}

/-! ### Types -/

/-- The value of a finite double: a number that is rounded to it. -/
def IsDouble (j : Json) (x : Binary64) : Prop := ∃ n, j = .number n ∧ nearest n = x ∧ x.IsFinite

/-- The value of a truth value. -/
def IsBool (j : Json) (b : Bool) : Prop := j = .bool b

/-- The value of a text. -/
def IsText (j : Json) (s : String) : Prop := j = .string (some s)

/-- The value of a named choice: its name, or an object with that one key and the value `null`. -/
def IsChoice (name : α → String) (j : Json) (a : α) : Prop :=
  j = .string (some (name a)) ∨ j = .object [(some (name a), .null)]

/-- The value of what may be absent, `null` if it is. -/
def IsOptional (Is : Json → α → Prop) (j : Json) : Option α → Prop
  | none => j = .null
  | some a => Is j a

/-- A field that must be present. -/
def Field.required (name : String) (get : ρ → α) (Is : Json → α → Prop) : Field ρ :=
  ⟨name, false, fun j r => Is j (get r)⟩

/-- A field that may be left out or `null`. -/
def Field.optional (name : String) (get : ρ → Option α) (Is : Json → α → Prop) : Field ρ :=
  ⟨name, true, fun j r => IsOptional Is j (get r)⟩

/-- A reader of single values yields just what a value stands for, and `null` stands for nothing. -/
structure Reads (read? : Json → Option α) (Is : Json → α → Prop) : Prop where
  eq_some_iff : ∀ j a, read? j = some a ↔ Is j a
  null : read? .null = none

namespace Reads

variable {read? : Json → Option α} {Is : Json → α → Prop} {fs : List (String × Json)}
  {name : String} {a : α}

theorem not_null (h : Reads read? Is) (a : α) : ¬Is .null a := by
  rw [← h.eq_some_iff, h.null]
  exact nofun

theorem required_eq_some_iff (h : Reads read? Is) :
    required read? fs name = some a ↔ Is (valueIn fs name) a := by
  rw [← h.eq_some_iff, required, valueIn]
  cases fs.lookup name with
  | none => simp [h.null]
  | some j => rfl

theorem optional_eq_some_iff (h : Reads read? Is) {o : Option α} :
    optional read? fs name = some o ↔ IsOptional Is (valueIn fs name) o := by
  have hnull : some (none : Option α) = some o ↔ IsOptional Is .null o := by
    cases o with
    | none => simp [IsOptional]
    | some a => simp [IsOptional, h.not_null a]
  cases hlookup : fs.lookup name with
  | none =>
    rw [optional_of_lookup_eq_none hlookup, valueIn, hlookup]
    exact hnull
  | some j =>
    rw [valueIn, hlookup, Option.getD_some]
    by_cases hj : j = .null
    · rw [optional, hlookup, hj]
      exact hnull
    · rw [optional_of_lookup hlookup hj]
      cases o with
      | none => simp [IsOptional, hj]
      | some a => simp [IsOptional, h.eq_some_iff]

end Reads

theorem reads_double : Reads double? IsDouble := by
  refine ⟨fun j x => ?_, rfl⟩
  cases j with
  | number n =>
    simp only [double?, IsDouble, Json.number.injEq, exists_eq_left', Option.ite_none_right_eq_some,
      Option.some.injEq]
    constructor
    · rintro ⟨hfin, rfl⟩
      exact ⟨rfl, hfin⟩
    · rintro ⟨rfl, hfin⟩
      exact ⟨hfin, rfl⟩
  | _ => simp [double?, IsDouble]

theorem reads_bool : Reads bool? IsBool := by
  refine ⟨fun j b => ?_, rfl⟩
  cases j <;> simp [bool?, IsBool]

theorem reads_text : Reads text? IsText := by
  refine ⟨fun j s => ?_, rfl⟩
  unfold text? IsText
  split <;> simp_all

theorem reads_choice {ofName? : String → Option α} {name : α → String}
    (h : ∀ s a, ofName? s = some a ↔ s = name a) : Reads (choice? ofName?) (IsChoice name) := by
  refine ⟨fun j a => ?_, rfl⟩
  unfold choice? IsChoice
  split
  · simp [h]
  · simp [h]
  · rename_i hstring hobject
    constructor
    · exact nofun
    · rintro (rfl | rfl)
      · exact absurd rfl (hstring _)
      · exact absurd rfl (hobject _)

/-! ### Fields -/

@[simp] theorem Field.shows_required {name : String} {get : ρ → α} {Is : Json → α → Prop} {j : Json}
    {r : ρ} : (Field.required name get Is).Shows j r ↔ Is j (get r) := Iff.rfl

@[simp] theorem Field.shows_optional {name : String} {get : ρ → Option α} {Is : Json → α → Prop}
    {j : Json} {r : ρ} : (Field.optional name get Is).Shows j r ↔ IsOptional Is j (get r) := Iff.rfl

theorem takes_required_null_iff {name : String} {get : ρ → α} {read? : Json → Option α}
    {Is : Json → α → Prop} (h : Reads read? Is) :
    (Field.required name get Is).Takes .null ↔ false = true := by
  refine iff_of_false ?_ Bool.false_ne_true
  rintro ⟨r, hr⟩
  exact h.not_null _ hr

theorem takes_optional_null_iff {name : String} {get : ρ → Option α} {Is : Json → α → Prop} {r : ρ}
    (h : get r = none) : (Field.optional name get Is).Takes .null ↔ true = true := by
  refine iff_of_true ⟨r, ?_⟩ rfl
  show IsOptional Is .null (get r)
  rw [h]
  exact rfl

end Json

open Json

/-! ### Ranges -/

namespace Range

/-- The form of a stored range. -/
def form : List (Json.Field Range) := [
  .required "min_value" floor IsDouble,
  .required "max_value" ceiling IsDouble,
  .required "value_from" lower IsDouble,
  .required "value_to" upper IsDouble,
  .required "enabled" enabled IsBool]

theorem free_form : Free form where
  nodup := by decide
  takes_null_iff := by
    simp only [form, List.forall_mem_cons]
    exact ⟨takes_required_null_iff reads_double, takes_required_null_iff reads_double,
      takes_required_null_iff reads_double, takes_required_null_iff reads_double,
      takes_required_null_iff reads_bool, nofun⟩
  exists_record := by
    intro v h
    simp only [form, List.forall_mem_cons] at h ⊢
    obtain ⟨⟨r₁, h₁⟩, ⟨r₂, h₂⟩, ⟨r₃, h₃⟩, ⟨r₄, h₄⟩, ⟨r₅, h₅⟩, -⟩ := h
    exact ⟨⟨r₁.floor, r₂.ceiling, r₃.lower, r₄.upper, r₅.enabled⟩, h₁, h₂, h₃, h₄, h₅, nofun⟩

theorem readsForm : ReadsForm form ofJson? := by
  refine .of_build free_form (fun _ => rfl) fun fs r => ?_
  simp only [form, List.forall_mem_cons, Field.shows_required]
  simp only [Field.required, ← reads_double.required_eq_some_iff,
    ← reads_bool.required_eq_some_iff, Option.bind_eq_bind, Option.bind_eq_some_iff]
  constructor
  · rintro ⟨floor, hfloor, ceiling, hceiling, lower, hlower, upper, hupper, enabled, henabled, hr⟩
    cases hr
    exact ⟨hfloor, hceiling, hlower, hupper, henabled, nofun⟩
  · rintro ⟨hfloor, hceiling, hlower, hupper, henabled, -⟩
    exact ⟨_, hfloor, _, hceiling, _, hlower, _, hupper, _, henabled, rfl⟩

end Range

/-! ### Tracks -/

namespace Analysis

/-- The form of a stored analysis. -/
def form : List (Json.Field Analysis) :=
  Quantity.all.map fun q => .optional q.name (fun a => a.value? q) IsDouble

theorem free_form : Free form where
  nodup := by decide
  takes_null_iff := by
    simp only [form, List.forall_mem_map]
    exact fun q _ => takes_optional_null_iff (value?_empty q)
  exists_record := by
    intro v h
    simp only [form, List.forall_mem_map] at h ⊢
    choose a ha using h
    refine ⟨⟨fun q => (a q (Quantity.mem_all q)).value? q⟩, fun q hq => ?_⟩
    exact ha q hq

theorem readsForm : ReadsForm form ofJson? := by
  refine .of_build free_form (fun _ => rfl) fun fs a => ?_
  simp only [form, List.forall_mem_map, Field.shows_optional]
  simp only [Field.optional, ← reads_double.optional_eq_some_iff,
    Option.ite_none_right_eq_some, Option.some.injEq, List.all_eq_true]
  constructor
  · rintro ⟨hsome, rfl⟩ q hq
    obtain ⟨o, ho⟩ := Option.isSome_iff_exists.1 (hsome q hq)
    dsimp only
    rw [ho]
    rfl
  · intro h
    refine ⟨fun q hq => by rw [h q hq]; rfl, ?_⟩
    refine ext fun q => ?_
    dsimp only
    rw [h q (Quantity.mem_all q)]
    rfl

/-- An analysis is read just from the values that show it. -/
theorem reads_ofJson? : Reads ofJson? (Represents form) := ⟨readsForm.eq_some_iff, rfl⟩

end Analysis

namespace Track

/-- The form of a stored track. -/
def form : List (Json.Field Track) := [
  .required "name" name IsText,
  .required "path" path IsText,
  .optional "analysis" analysis (Represents Analysis.form)]

theorem free_form : Free form where
  nodup := by decide
  takes_null_iff := by
    simp only [form, List.forall_mem_cons]
    exact ⟨takes_required_null_iff reads_text, takes_required_null_iff reads_text,
      takes_optional_null_iff (r := ⟨"", "", none⟩) rfl, nofun⟩
  exists_record := by
    intro v h
    simp only [form, List.forall_mem_cons] at h ⊢
    obtain ⟨⟨t₁, h₁⟩, ⟨t₂, h₂⟩, ⟨t₃, h₃⟩, -⟩ := h
    exact ⟨⟨t₁.name, t₂.path, t₃.analysis⟩, h₁, h₂, h₃, nofun⟩

theorem readsForm : ReadsForm form ofJson? := by
  refine .of_build free_form (fun _ => rfl) fun fs t => ?_
  simp only [form, List.forall_mem_cons, Field.shows_required, Field.shows_optional]
  simp only [Field.required, Field.optional, ← reads_text.required_eq_some_iff,
    ← Analysis.reads_ofJson?.optional_eq_some_iff, Option.bind_eq_bind, Option.bind_eq_some_iff]
  constructor
  · rintro ⟨name, hname, path, hpath, analysis, hanalysis, ht⟩
    cases ht
    exact ⟨hname, hpath, hanalysis, nofun⟩
  · rintro ⟨hname, hpath, hanalysis, -⟩
    exact ⟨_, hname, _, hpath, _, hanalysis, rfl⟩

end Track

/-! ### Ceilings -/

namespace Ceilings

/-- The form of stored ceilings. -/
def form : List (Json.Field Ceilings) :=
  Ceiling.all.map (fun k => .required k.name (fun c => c.limit k) IsDouble) ++
    [.required systemField system (IsChoice MeasurementSystem.name)]

theorem reads_system :
    Reads (Json.choice? MeasurementSystem.ofName?) (IsChoice MeasurementSystem.name) :=
  reads_choice fun _ _ => MeasurementSystem.ofName?_eq_some_iff

theorem free_form : Free form where
  nodup := by decide
  takes_null_iff := by
    simp only [form, List.forall_mem_append, List.forall_mem_map, List.forall_mem_singleton]
    exact ⟨fun k _ => takes_required_null_iff reads_double, takes_required_null_iff reads_system⟩
  exists_record := by
    intro v h
    simp only [form, List.forall_mem_append, List.forall_mem_map, List.forall_mem_singleton] at h ⊢
    obtain ⟨hlimit, d, hd⟩ := h
    choose c hc using hlimit
    exact ⟨⟨fun k => (c k (Ceiling.mem_all k)).limit k, d.system⟩, fun k hk => hc k hk, hd⟩

theorem readsForm : ReadsForm form ofJson? := by
  refine .of_build free_form (fun _ => rfl) fun fs c => ?_
  simp only [form, List.forall_mem_append, List.forall_mem_map, List.forall_mem_singleton,
    Field.shows_required]
  simp only [Field.required, ← reads_double.required_eq_some_iff,
    ← reads_system.required_eq_some_iff, Option.bind_eq_bind, Option.bind_eq_some_iff,
    Option.ite_none_right_eq_some, Option.some.injEq, List.all_eq_true]
  constructor
  · rintro ⟨system, hsystem, hsome, rfl⟩
    refine ⟨fun k hk => ?_, hsystem⟩
    obtain ⟨x, hx⟩ := Option.isSome_iff_exists.1 (hsome k hk)
    dsimp only
    rw [hx]
    rfl
  · rintro ⟨hlimit, hsystem⟩
    refine ⟨_, hsystem, fun k hk => by rw [hlimit k hk]; rfl, ext (fun k => ?_) rfl⟩
    dsimp only
    rw [hlimit k (Ceiling.mem_all k)]
    rfl

end Ceilings

/-- **The readers of stored ranges, analyses, tracks and ceilings go by the forms of their
records**, however the records are presented. -/
theorem stored_records_read_by_form :
    ReadsForm Range.form Range.ofJson? ∧ ReadsForm Analysis.form Analysis.ofJson? ∧
      ReadsForm Track.form Track.ofJson? ∧ ReadsForm Ceilings.form Ceilings.ofJson? :=
  ⟨Range.readsForm, Analysis.readsForm, Track.readsForm, Ceilings.readsForm⟩

/-- A track with members out of order and two members of one unknown name, the first of them a
number out of range, is read like the array of its fields. With a second name it is not of the form
any more. -/
theorem stored_records_read_by_form_colours :
    let huge : Json := .number ⟨false, [1], [], 999⟩
    let analysis : Json := .ofMembers [("max_speed", .number ⟨false, [2], [5], 0⟩)]
    let members := [("analysis", analysis), ("colour", huge), ("path", .ofText "p"),
      ("colour", .null), ("name", .ofText "n")]
    HasForm Track.form (.ofMembers members) ∧
      Track.ofJson? (.ofMembers members) =
        Track.ofJson? (.array [.ofText "n", .ofText "p", analysis]) ∧
      ¬HasForm Track.form (.ofMembers (("name", .ofText "m") :: members)) := by
  intro huge analysis members
  obtain ⟨-, -, htrack, -⟩ := stored_records_read_by_form
  refine ⟨(htrack.isSome_iff _).1 (by decide +kernel), ?_, ?_⟩
  · exact htrack.of_array members (by simp [Track.form, Field.required, Field.optional, members])
  · rw [← htrack.isSome_iff]
    decide +kernel

end TrackSieve
