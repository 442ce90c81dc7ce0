import TrackSieve.Proofs.Ceilings.Load
import TrackSieve.Proofs.Decimal.Reader
import TrackSieve.Proofs.Measure.Setting

/-!
# Ceilings written into an environment

Ceilings can be put into an environment by writing each of them, in the layout of messages, into its
variable and the name of the system into its own. Blanks may be put around every value, and the
letters of the name may be small ones. No character that is written is a blank, so just the blanks
are taken off again; what is left is read back as the double or the system that was written.
-/

namespace TrackSieve

/-! ### Environments -/

namespace Environment

/-- A variable is set to some characters with blanks on both sides. -/
def Holds (env : Environment) (name : String) (cs : List Char) : Prop :=
  ∃ left right : List Char, (∀ c ∈ left, Text.isBlank c) ∧ (∀ c ∈ right, Text.isBlank c) ∧
    env.value? name = some (String.ofList (left ++ cs ++ right)).toUTF8

theorem fromUTF8?_toUTF8 (s : String) : String.fromUTF8? s.toUTF8 = some s :=
  dif_pos s.isValidUTF8

/-- What a variable holds is read without the blanks. -/
theorem Holds.gives {α : Type} {env : Environment} {name : String} {cs : List Char}
    {read? : String → Option α} {a : α} (h : env.Holds name cs)
    (hcs : ∀ c ∈ cs, Text.isBlank c = false) (hread : read? (String.ofList cs) = some a)
    (standard : α) : env.Gives name read? standard a := by
  obtain ⟨left, right, hleft, hright, hset⟩ := h
  refine .read hset (fromUTF8?_toUTF8 _) ?_
  rw [String.toList_ofList, Text.trim_append_append hleft hright hcs, hread]

end Environment

namespace Ceilings

/-- **Ceilings that are written into an environment are loaded**, bit by bit. All of them have to be
positive and finite. Every value may have blanks on both sides, and the name of the system may be
written in any case. -/
theorem load_written (c : Ceilings) (env : Environment)
    (hc : ∀ k, (c.limit k).IsFinite ∧ Binary64.zeroOf false < c.limit k)
    (hlimit : ∀ k : Ceiling, env.Holds k.variableName (Layout.plain.text (c.limit k)).toList)
    (hsystem : ∃ cs, Text.InCase c.system.name.toList cs ∧ env.Holds systemVariable cs) :
    load env = .ok c := by
  rw [load_eq_ok_iff, ofEnvironment_eq_ok_iff, check_eq_ok_iff]
  refine ⟨⟨fun k => ?_, ?_⟩, hc⟩
  · have hfin := (hc k).1
    refine (hlimit k).gives (fun d hd => ?_) ?_ _
    · rw [Layout.text, if_neg hfin.not_isNaN, if_pos hfin, Numeral.text,
        String.toList_ofList] at hd
      exact Numeral.isBlank_of_mem_chars hd
    · rw [String.ofList_toList, Layout.ofText?_text _ hfin.not_isNaN]
  · obtain ⟨cs, hcase, hholds⟩ := hsystem
    have hblanks : ∀ d ∈ cs, Text.isBlank d = false :=
      fun d hd => (MeasurementSystem.spec_of_mem_inCase_name hcase hd).1
    exact hholds.gives hblanks (MeasurementSystem.ofSetting?_of_inCase hcase) _

/-- A tenth, a number whose digits end before its point, and the least positive double, with blanks
of several kinds around them. -/
theorem load_written_nautical :
    let least : Binary64 := .ofCode false 1
    let c : Ceilings := ⟨fun
      | .length => .ofDecimal false 1 (-1)
      | .speed => .ofNat (10 ^ 22)
      | .duration => least
      | .altitude | .elevationChange => .ofNat 10000, .nauticalMilesAndFeet⟩
    load (.ofList [
      ("TRACK_FILTERS_LENGTH_MAX", " 0.1\t".toUTF8),
      ("TRACK_FILTERS_SPEED_MAX", "\u300010000000000000000000000".toUTF8),
      ("TRACK_FILTERS_DURATION_MAX", (Layout.plain.text least).toUTF8),
      ("TRACK_FILTERS_ALTITUDE_MAX", "10000\u00a0".toUTF8),
      ("TRACK_FILTERS_ELEVATION_CHANGE_MAX", "10000".toUTF8),
      ("TRACK_FILTERS_METRIC_SYSTEM", " Nautical_miles_AND_feet".toUTF8)]) = .ok c := by
  intro least c
  have hblank : ∀ {d : Char}, Text.isBlank d → ∀ e ∈ [d], Text.isBlank e :=
    fun hd => List.forall_mem_singleton.2 hd
  refine load_written c _ (fun k => ?_) (fun k => ?_) ⟨"Nautical_miles_AND_feet".toList, ?_, ?_⟩
  · cases k <;> decide +kernel
  · cases k
    · exact ⟨[' '], ['\t'], hblank rfl, hblank rfl, by decide +kernel⟩
    · exact ⟨['\u3000'], [], hblank rfl, nofun, by decide +kernel⟩
    · refine ⟨[], [], nofun, nofun, ?_⟩
      rw [List.nil_append, List.append_nil, String.ofList_toList]
      rfl
    · exact ⟨[], ['\u00a0'], nofun, hblank rfl, by decide +kernel⟩
    · exact ⟨[], [], nofun, nofun, by decide +kernel⟩
  · decide +kernel
  · exact ⟨[' '], [], hblank rfl, nofun, by decide +kernel⟩

end Ceilings

end TrackSieve
