import TrackSieve.Proofs.Log.Listed

/-!
# The directive of the filters

The settings add one directive to the listed ones. Of a list that is nothing but one level it is a
directive for the targets of the filters, with this level, and no other target is concerned. Of a
longer list it is a plain directive for information, which takes the place of the listed plain one.
So a list with a plain level keeps its meaning exactly if it is this level alone or if the level is
information.
-/

namespace TrackSieve.Log

namespace Directives

/-- The directives for targets that are not the ones of the filters. -/
def forOthers (ds : Directives) : List Directive :=
  (ds.entries ++ ds.spans).filter fun d => d.target ≠ none ∧ d.target ≠ some Settings.ownTarget

end Directives

namespace Settings

open Directives

variable {s : Settings} {ds : List Directive} {d e : Directive} {l : Level}

/-! ### The level of the filters -/

/-- A list that is nothing but one level is read as it. -/
theorem ownLevel?_of_plain (h : Listed s.level [.plain l]) : s.ownLevel? = some l := by
  obtain ⟨cs, hspelled, hpieces⟩ :
      ∃ cs, Directive.SpelledBy (.plain l) cs ∧ Text.pieces ',' s.level.toList = [cs] := by
    simpa [Listed, List.forall₂_cons_left_iff] using h
  have hcomma : ',' ∉ cs := Text.not_mem_of_mem_pieces (hpieces ▸ List.mem_singleton_self cs)
  have hlevel : s.level.toList = cs := by
    rw [← Text.intercalate_pieces ',' s.level.toList, hpieces, List.intercalate_singleton]
  have hend : (Text.trimEnd cs).dropWhile (fun c => c ≠ ',') = [] := by
    rw [Text.trimEnd_eq_self hspelled.ends.2]
    refine List.dropWhile_eq_nil_iff.2 fun c hc => decide_eq_true ?_
    rintro rfl
    exact hcomma hc
  cases hspelled with
  | plain h =>
    simp only [ownLevel?, hlevel, hend, Directive.levelOfChars?, if_neg h.ne_nil, h.ofChars?]

/-- A list of several directives is no single level. -/
theorem ownLevel?_of_cons_cons (h : Listed s.level (d :: e :: ds)) : s.ownLevel? = none := by
  have hends := ends_of_mem_of_forall₂ h
  obtain ⟨cs, cs', rest, hpieces⟩ :
      ∃ cs cs' rest, Text.pieces ',' s.level.toList = cs :: cs' :: rest := by
    obtain ⟨cs, behind, -, hbehind, hpieces⟩ := List.forall₂_cons_left_iff.1 h
    obtain ⟨cs', rest, -, -, rfl⟩ := List.forall₂_cons_left_iff.1 hbehind
    exact ⟨cs, cs', rest, hpieces⟩
  have hcomma : ∀ c ∈ cs, decide (c ≠ ',') = true := by
    rintro c hc
    refine decide_eq_true ?_
    rintro rfl
    exact Text.not_mem_of_mem_pieces (hpieces ▸ List.mem_cons_self) hc
  rw [hpieces] at hends
  -- what stands behind the first comma is not empty, and neither it nor the whole ends with a blank
  obtain ⟨hbehind, -⟩ := Text.getLast?_intercalate ',' (List.cons_ne_nil cs' rest) fun p hp =>
    hends p (List.mem_cons_of_mem cs hp)
  obtain ⟨-, hlast⟩ := Text.getLast?_intercalate ',' (List.cons_ne_nil cs (cs' :: rest)) hends
  obtain ⟨c, behind, hc⟩ := List.exists_cons_of_ne_nil hbehind
  have hlevel : s.level.toList = cs ++ ',' :: c :: behind := by
    rw [← Text.intercalate_pieces ',' s.level.toList, hpieces, List.intercalate_cons_cons, hc]
    simp
  have hrest : (Text.trimEnd s.level.toList).dropWhile (fun c => c ≠ ',') = ',' :: c :: behind := by
    rw [Text.trimEnd_eq_self, hlevel, List.dropWhile_append_of_pos hcomma,
      List.dropWhile_cons_of_neg (by decide)]
    rw [← Text.intercalate_pieces ',' s.level.toList, hpieces]
    exact hlast
  simp only [ownLevel?, hrest]

/-- The directive of the filters, of a list with a plain level. -/
theorem ownDirective_of_listed (h : Listed s.level ds) (hl : lastPlain? ds = some l) :
    s.ownDirective = if ds.length = 1 then .ofTarget ownTarget l else .plain .info := by
  match ds with
  | [] => exact absurd rfl h.ne_nil
  | [d] =>
    cases eq_plain_of_lastPlain?_singleton hl
    simp [ownDirective, ownLevel?_of_plain h]
  | d :: e :: ds =>
    simp [ownDirective, ownLevel?_of_cons_cons h]

/-! ### What the directive of the filters changes -/

/-- The directives for other targets are the listed ones, whatever the list is. -/
theorem forOthers_directives (s : Settings) :
    s.directives.forOthers = (Directives.ofText s.level).forOthers := by
  have hown : s.ownDirective.target = none ∨ s.ownDirective.target = some ownTarget := by
    rw [ownDirective]
    split
    · exact .inr rfl
    · exact .inl rfl
  have hnot : ∀ e : Directive, s.ownDirective.target = e.target →
      decide (e.target ≠ none ∧ e.target ≠ some ownTarget) = false := by
    intro e he
    rw [← he]
    rcases hown with h | h <;> simp [h]
  rw [forOthers, forOthers, List.filter_append, List.filter_append]
  congr 1
  exact filter_place (hnot _ rfl) fun e he => hnot e (Directive.scope_eq_of_compareScope he).1

/-- The plain directive has the level of the list if it is nothing else, and else information. -/
theorem plain?_directives (h : Listed s.level ds) (hl : lastPlain? ds = some l) :
    s.directives.plain? = some (if ds.length = 1 then l else .info) := by
  rw [directives, plain?, Directives.insert, h.ofText, ownDirective_of_listed h hl]
  split
  · have hown := Directive.not_isPlain_ofTarget ownTarget l
    have hother : ∀ e, (Directive.ofTarget ownTarget l).compareScope e = .eq →
        decide e.IsPlain = false := fun e he =>
      decide_eq_false ((Directive.isPlain_iff_of_compareScope he).not.1 hown)
    rw [find?_place (decide_eq_false hown) hother, find?_isPlain_arrange, hl]
  · rw [find?_isPlain_place_plain]
    rfl

/-- In a longer list, information takes the place of the listed plain level, for every target. -/
theorem find?_directives (h : Listed s.level ds) (hl : lastPlain? ds = some l)
    (hlength : ds.length ≠ 1) (target : String) (fields : List String) :
    (s.directives.entries.find? fun d => d.Covers target fields) =
      some (orPlain .info ((Directives.ofText s.level).entries.find? fun d =>
        d.Covers target fields)) := by
  rw [directives, Directives.insert, ownDirective_of_listed h hl, if_neg hlength]
  exact find?_place_plain fun e he => decide_eq_true (he.covers target fields)

/-- Beside a level the directive of the filters lets nothing else through than the level does. -/
theorem allow_directives_of_plain (h : Listed s.level [.plain l]) (target : String)
    (fields : List String) (level : Level) :
    s.directives.Allow target fields level ↔
      (Directives.ofText s.level).Allow target fields level := by
  have hentries : s.directives.entries = [.ofTarget ownTarget l, .plain l] := by
    rw [directives, Directives.insert, ownDirective_of_listed h rfl, h.ofText]
    rfl
  have hplain := (Directive.isPlain_plain l).covers target fields
  have hdecides : ∀ d : Directive, d.level = l →
      ((∃ e ∈ some d, e.level.Allows level) ↔ l.Allows level) := by
    rintro d rfl
    simp
  rw [Allow, Allow, hentries, h.entries_plain]
  by_cases hown : (Directive.ofTarget ownTarget l).Covers target fields
  · rw [List.find?_cons_of_pos (by simpa using hown),
      List.find?_cons_of_pos (by simpa using hplain), hdecides _ rfl, hdecides _ rfl]
  · rw [List.find?_cons_of_neg (by simpa using hown)]

/-- The directives of the settings keep the meaning of a list of directives: the plain directive has
the last plain level of the list, for other targets there are exactly the directives that the list
alone gives, and other targets log what the list alone lets through. -/
structure KeepsMeaning (s : Settings) (ds : List Directive) : Prop where
  plain : s.directives.plain? = lastPlain? ds
  others : s.directives.forOthers = (Directives.ofText s.level).forOthers
  logged (target : String) (fields : List String) (level : Level) : target ≠ ownTarget →
    (s.directives.Allow target fields level ↔
      (Directives.ofText s.level).Allow target fields level)

/-- Information in place of information changes nothing. -/
theorem find?_directives_of_info (h : Listed s.level ds) (hl : lastPlain? ds = some .info)
    (hlength : ds.length ≠ 1) (target : String) (fields : List String) :
    (s.directives.entries.find? fun d => d.Covers target fields) =
      (Directives.ofText s.level).entries.find? fun d => d.Covers target fields := by
  rw [find?_directives h hl hlength, h.ofText]
  refine orPlain_find? (fun e he => decide_eq_true (he.covers target fields)) ?_
  rw [find?_isPlain_arrange, hl]

/-- **When a list of directives keeps its meaning.** Whatever the list is, the directives for other
targets are exactly the listed ones. The plain directive is the last plain one of the list if the
list is nothing else; in a longer list it is information, and this decides about every entry that
the listed plain directive decided about, of any target, while what other directives decide stays
as it was. So the meaning is kept exactly for a list that is one level, or whose last plain level is
information. -/
theorem listed_keepsMeaning_iff (h : Listed s.level ds) (hl : lastPlain? ds = some l) :
    s.directives.forOthers = (Directives.ofText s.level).forOthers ∧
    s.directives.plain? = some (if ds.length = 1 then l else .info) ∧
    (ds.length ≠ 1 → ∀ (target : String) (fields : List String),
      (s.directives.entries.find? fun d => d.Covers target fields) =
        some (orPlain .info ((Directives.ofText s.level).entries.find? fun d =>
          d.Covers target fields))) ∧
    (s.KeepsMeaning ds ↔ ds.length = 1 ∨ l = .info) := by
  refine ⟨s.forOthers_directives, plain?_directives h hl, find?_directives h hl, ?_⟩
  constructor
  · intro hkeeps
    have hplain := hkeeps.plain
    rw [plain?_directives h hl, hl, Option.some_inj] at hplain
    by_cases hlength : ds.length = 1
    · exact .inl hlength
    · rw [if_neg hlength] at hplain
      exact .inr hplain.symm
  · intro hcases
    refine ⟨?_, s.forOthers_directives, fun target fields level _ => ?_⟩
    · rw [plain?_directives h hl, hl]
      rcases hcases with hlength | rfl
      · rw [if_pos hlength]
      · rw [ite_self]
    · by_cases hlength : ds.length = 1
      · obtain ⟨d, rfl⟩ := List.length_eq_one_iff.1 hlength
        cases eq_plain_of_lastPlain?_singleton hl
        exact allow_directives_of_plain h target fields level
      · cases hcases.resolve_left hlength
        rw [Allow, Allow, find?_directives_of_info h hl hlength]

/-- A list with levels in any case, a digit and two targets keeps its meaning, for its last plain
level is information. -/
theorem listed_keepsMeaning_digit :
    let s : Settings := { standard with level := "hyper=debug,WARN,h2=5,3" }
    let ds : List Directive :=
      [.ofTarget "hyper" .debug, .plain .warn, .ofTarget "h2" .trace, .plain .info]
    Listed s.level ds ∧ lastPlain? ds = some .info ∧ s.directives.plain? = some .info ∧
      s.KeepsMeaning ds := by
  intro s ds
  have hpieces : Text.pieces ',' s.level.toList = ["hyper".toList ++ '=' :: "debug".toList,
      "WARN".toList, "h2".toList ++ '=' :: "5".toList, "3".toList] := by decide +kernel
  have hlisted : Listed s.level ds := by
    rw [Listed, hpieces]
    exact .cons (.ofTarget (.of_all (by decide) (by decide)) (by decide)) <|
      .cons (.plain (by decide)) <|
      .cons (.ofTarget (.of_all (by decide) (by decide)) (by decide)) <|
      .cons (.plain (by decide)) .nil
  have hplain : lastPlain? ds = some .info := by decide
  obtain ⟨-, hforce, -, hiff⟩ := listed_keepsMeaning_iff hlisted hplain
  exact ⟨hlisted, hplain, hforce, hiff.2 (.inr rfl)⟩

/-- A list with a level and the directive of the filters does not keep its meaning: information
takes the place of the level. -/
theorem not_keepsMeaning_warn :
    let s : Settings := { standard with level := "warn,track_range_filters=warn" }
    let ds : List Directive := [.plain .warn, .ofTarget ownTarget .warn]
    Listed s.level ds ∧ lastPlain? ds = some .warn ∧ ¬s.KeepsMeaning ds ∧
      s.directives.text = "track_range_filters=warn,info" ∧
      s.directives.Allow "hyper" [] .info ∧
      ¬(Directives.ofText s.level).Allow "hyper" [] .info := by
  intro s ds
  have hpieces : Text.pieces ',' s.level.toList =
      ["warn".toList, ownTarget.toList ++ '=' :: "warn".toList] := by decide +kernel
  have hlisted : Listed s.level ds := by
    rw [Listed, hpieces]
    exact .cons (.plain (by decide)) <|
      .cons (.ofTarget (.of_all (by decide) (by decide)) (by decide)) .nil
  refine ⟨hlisted, by decide, fun hkeeps => ?_, by decide +kernel, by decide +kernel,
    by decide +kernel⟩
  exact absurd hkeeps.plain (by decide +kernel)

end Settings

end TrackSieve.Log
