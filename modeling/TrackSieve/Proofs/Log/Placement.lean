import TrackSieve.Log.Directive
import Mathlib.Tactic

/-!
# Directives in their places

A directive that is put into a list takes the place of one for the same things, or stands in front
of the first that is less specific. Everything else in the list stays as it is, so a question about
directives for other things has the same answer before and after. A plain directive is the least
specific of all: it comes last, and decides what no other directive decides.
-/

namespace TrackSieve.Log

namespace Directive

variable {d e : Directive} {l : Level}

/-! ### Scopes -/

/-- Directives that compare as equal are for the same targets and spans. -/
theorem scope_eq_of_compareScope (h : d.compareScope e = .eq) :
    d.target = e.target ∧ d.span = e.span ∧ d.condition.isSome = e.condition.isSome := by
  simp only [compareScope, Ordering.then_eq_eq, Std.compare_eq_iff_eq] at h
  obtain ⟨-, -, hcondition, htarget, hspan, -⟩ := h
  exact ⟨htarget, hspan, hcondition⟩

theorem isPlain_plain (l : Level) : (plain l).IsPlain := ⟨rfl, rfl, rfl⟩

theorem not_isPlain_ofTarget (name : String) (l : Level) : ¬(ofTarget name l).IsPlain := by
  rintro ⟨h, -⟩
  cases h

/-- A plain directive is settled by its level. -/
theorem IsPlain.eq_plain (h : d.IsPlain) : d = plain d.level := by
  obtain ⟨target, span, condition, level⟩ := d
  obtain ⟨rfl, rfl, rfl⟩ := h
  rfl

theorem isPlain_iff_of_compareScope (h : d.compareScope e = .eq) : d.IsPlain ↔ e.IsPlain := by
  obtain ⟨htarget, hspan, hcondition⟩ := scope_eq_of_compareScope h
  have hnone : d.condition = none ↔ e.condition = none := by
    rw [← Option.not_isSome_iff_eq_none, hcondition, Option.not_isSome_iff_eq_none]
  rw [IsPlain, IsPlain, htarget, hspan, hnone]

/-- Two plain directives are for the same things. -/
theorem IsPlain.compareScope_plain (h : e.IsPlain) : (plain l).compareScope e = .eq := by
  rw [h.eq_plain]
  rfl

/-- No directive is less specific than a plain one. -/
theorem compareScope_plain_ne_gt (l : Level) (e : Directive) : (plain l).compareScope e ≠ .gt := by
  obtain ⟨target, span, condition, level⟩ := e
  cases target <;> cases span <;> cases condition <;> exact nofun

/-- A plain directive is for every entry. -/
theorem IsPlain.covers (h : d.IsPlain) (target : String) (fields : List String) :
    d.Covers target fields := by
  rw [h.eq_plain]
  exact ⟨nofun, nofun⟩

end Directive

namespace Directives

open Directive

variable {d : Directive} {ds : List Directive} {l : Level} {p : Directive → Bool}

/-! ### One directive -/

/-- Where a directive is put: behind what is less than it, in the place of a directive for the same
things or in front of what is greater. -/
theorem exists_place (d : Directive) (ds : List Directive) :
    ∃ before after, place d ds = before ++ d :: after ∧ (∀ b ∈ before, d.compareScope b = .lt) ∧
      ((ds = before ++ after ∧ ∀ a ∈ after.head?, d.compareScope a = .gt) ∨
        ∃ e, d.compareScope e = .eq ∧ ds = before ++ e :: after) := by
  induction ds with
  | nil => exact ⟨[], [], rfl, nofun, .inl ⟨rfl, nofun⟩⟩
  | cons e ds ih =>
    rw [place]
    split
    · rename_i h
      exact ⟨[], ds, rfl, nofun, .inr ⟨e, h, rfl⟩⟩
    · rename_i h
      refine ⟨[], e :: ds, rfl, nofun, .inl ⟨rfl, ?_⟩⟩
      rintro a ⟨⟩
      exact h
    · rename_i h
      obtain ⟨before, after, hplace, hbefore, hds⟩ := ih
      refine ⟨e :: before, after, by rw [hplace]; rfl, List.forall_mem_cons.2 ⟨h, hbefore⟩, ?_⟩
      rcases hds with ⟨rfl, hafter⟩ | ⟨e', he', rfl⟩
      · exact .inl ⟨rfl, hafter⟩
      · exact .inr ⟨e', he', rfl⟩

/-- The directives for other things stay as they are. -/
theorem filter_place (hd : p d = false) (hp : ∀ e, d.compareScope e = .eq → p e = false) :
    (place d ds).filter p = ds.filter p := by
  obtain ⟨before, after, hplace, -, hds⟩ := exists_place d ds
  rcases hds with ⟨hds, -⟩ | ⟨e, he, hds⟩
  · rw [hplace, hds]
    simp [hd]
  · rw [hplace, hds]
    simp [hd, hp e he]

/-- So does the first of them. -/
theorem find?_place (hd : p d = false) (hp : ∀ e, d.compareScope e = .eq → p e = false) :
    (place d ds).find? p = ds.find? p := by
  rw [← List.head?_filter, filter_place hd hp, List.head?_filter]

/-- What decides when a plain directive is added to what decided before: the plain one takes the
place of another plain one and of none at all. -/
def orPlain (l : Level) : Option Directive → Directive
  | some e => if e.IsPlain then plain l else e
  | none => plain l

/-- A plain directive decides what no other directive decides that is not plain. -/
theorem find?_place_plain (hp : ∀ e : Directive, e.IsPlain → p e = true) :
    (place (plain l) ds).find? p = some (orPlain l (ds.find? p)) := by
  obtain ⟨before, after, hplace, hbefore, hds⟩ := exists_place (plain l) ds
  have hnot : ∀ b ∈ before, ¬b.IsPlain := by
    intro b hb hplain
    have hlt := hbefore b hb
    rw [hplain.compareScope_plain] at hlt
    cases hlt
  -- what is in front is not plain, and behind it the old plain directive decided, if there was one
  have hrest : ∃ rest, (∀ e ∈ rest.head?, e.IsPlain) ∧ ds = before ++ rest := by
    rcases hds with ⟨rfl, hafter⟩ | ⟨e, he, rfl⟩
    · refine ⟨after, fun e he => ?_, rfl⟩
      exact absurd (hafter e he) (compareScope_plain_ne_gt l e)
    · refine ⟨e :: after, ?_, rfl⟩
      rintro _ ⟨⟩
      exact (isPlain_iff_of_compareScope he).1 (isPlain_plain l)
  obtain ⟨rest, hplain, rfl⟩ := hrest
  rw [hplace, List.find?_append, List.find?_append,
    List.find?_cons_of_pos (hp _ (isPlain_plain l))]
  cases hb : before.find? p with
  | some b =>
    have hbplain := hnot b (List.mem_of_find?_eq_some hb)
    rw [Option.some_or, Option.some_or, orPlain, if_neg hbplain]
  | none =>
    rw [Option.none_or, Option.none_or]
    cases rest with
    | nil => rfl
    | cons e rest =>
      have heplain := hplain e rfl
      rw [List.find?_cons_of_pos (hp e heplain), orPlain, if_pos heplain]

/-- A plain directive takes the place of every other. -/
theorem find?_isPlain_place_plain :
    ((place (plain l) ds).find? fun d => d.IsPlain) = some (plain l) := by
  rw [find?_place_plain fun e he => decide_eq_true he]
  cases h : ds.find? fun d => d.IsPlain with
  | none => rfl
  | some e =>
    have he := List.find?_some h
    rw [orPlain, if_pos (of_decide_eq_true he)]

/-- A plain directive that is in force already decides nothing anew. -/
theorem orPlain_find? (hp : ∀ e : Directive, e.IsPlain → p e = true)
    (h : (ds.find? fun d => d.IsPlain).map level = some l) :
    some (orPlain l (ds.find? p)) = ds.find? p := by
  obtain ⟨d, hfind, hlevel⟩ := Option.map_eq_some_iff.1 h
  obtain ⟨hd, before, after, rfl, hbefore⟩ := List.find?_eq_some_iff_append.1 hfind
  have hd := of_decide_eq_true hd
  rw [List.find?_append, List.find?_cons_of_pos (hp d hd)]
  cases hb : before.find? p with
  | some b =>
    have hnot := hbefore b (List.mem_of_find?_eq_some hb)
    rw [Option.some_or, orPlain, if_neg (by simpa using hnot)]
  | none => rw [Option.none_or, orPlain, if_pos hd, hd.eq_plain, ← hlevel]

/-! ### Lists of directives -/

/-- The level of the last plain directive of a list. -/
def lastPlain? (ds : List Directive) : Option Level :=
  (ds.filter fun d => d.IsPlain).getLast?.map Directive.level

theorem lastPlain?_append_of_isPlain (h : d.IsPlain) : lastPlain? (ds ++ [d]) = some d.level := by
  simp [lastPlain?, List.filter_append, h]

theorem lastPlain?_append_of_not_isPlain (h : ¬d.IsPlain) :
    lastPlain? (ds ++ [d]) = lastPlain? ds := by
  simp [lastPlain?, List.filter_append, h]

/-- A list of one directive with a plain level is that level. -/
theorem eq_plain_of_lastPlain?_singleton (h : lastPlain? [d] = some l) : d = plain l := by
  have hd : d.IsPlain := by
    by_contra hd
    simp [lastPlain?, hd] at h
  have hlevel : d.level = l := by simpa [lastPlain?, hd] using h
  rw [hd.eq_plain, hlevel]

theorem arrange_append_singleton (ds : List Directive) (d : Directive) :
    arrange (ds ++ [d]) = place d (arrange ds) := by
  rw [arrange, List.foldl_append]
  rfl

/-- Of the plain directives of a list the last one is in force. -/
theorem find?_isPlain_arrange (ds : List Directive) :
    ((arrange ds).find? fun d => d.IsPlain).map Directive.level = lastPlain? ds := by
  induction ds using List.reverseRecOn with
  | nil => rfl
  | append_singleton ds d ih =>
    rw [arrange_append_singleton]
    by_cases hd : d.IsPlain
    · rw [lastPlain?_append_of_isPlain hd, hd.eq_plain, find?_isPlain_place_plain]
      rfl
    · have hother : ∀ e, d.compareScope e = .eq → decide e.IsPlain = false :=
        fun e he => decide_eq_false ((isPlain_iff_of_compareScope he).not.1 hd)
      rw [lastPlain?_append_of_not_isPlain hd, find?_place (decide_eq_false hd) hother, ih]

end Directives

end TrackSieve.Log
