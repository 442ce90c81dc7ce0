import TrackSieve.Proofs.Ceilings.Load
import TrackSieve.Proofs.Filter.Permitted

/-!
# The ceilings of a process

The first request settles the ceilings of a process, whatever the environments of later requests
are. What is settled passes the check, for it was either checked when it was loaded or is the
standard one. So the filters of a process start with their bounds in order, on the domain from zero
to the ceiling of their aspect.
-/

namespace TrackSieve

open Binary64

namespace Ceilings

variable {c : Ceilings} {env : Environment}

/-! ### What is settled -/

theorem check_standard : standard.check = .ok () := by
  rw [check_eq_ok_iff]
  rintro (_ | _ | _ | _ | _) <;> decide +kernel

theorem loadOrStandard_of_ok (h : load env = .ok c) : loadOrStandard env = c := by
  rw [loadOrStandard, h]

theorem loadOrStandard_of_error {e : LoadError} (h : load env = .error e) :
    loadOrStandard env = standard := by
  rw [loadOrStandard, h]

/-- Whatever the environment is, the ceilings pass the check. -/
theorem check_loadOrStandard (env : Environment) : (loadOrStandard env).check = .ok () := by
  cases h : load env with
  | ok c =>
    rw [loadOrStandard_of_ok h]
    exact (load_eq_ok_iff.1 h).2
  | error e =>
    rw [loadOrStandard_of_error h]
    exact check_standard

/-! ### Requests -/

namespace Settled

/-- What the requests of a process get, one after the other, each under its own environment. -/
def requests (settled : Settled) : List Environment → List Ceilings
  | [] => []
  | env :: envs => (settled.get env).1 :: (settled.get env).2.1.requests envs

/-- Once ceilings are settled, a request gets them, loads nothing and leaves them settled. -/
theorem get_some (c : Ceilings) (env : Environment) : get (some c) env = (c, some c, none) := rfl

/-- Later requests get what is settled, whatever their environments are. -/
theorem requests_some (c : Ceilings) (envs : List Environment) :
    requests (some c) envs = List.replicate envs.length c := by
  induction envs with
  | nil => rfl
  | cons env envs ih =>
    rw [requests, get_some, ih]
    rfl

/-- The first request settles what all requests get. -/
theorem requests_none (env : Environment) (envs : List Environment) :
    requests none (env :: envs) = List.replicate (envs.length + 1) (loadOrStandard env) := by
  have hget : get none env =
      (loadOrStandard env, some (loadOrStandard env), some (load env)) := rfl
  rw [requests, hget, requests_some]
  rfl

end Settled

end Ceilings

/-! ### Filters of a process -/

namespace RangeFilter

variable {ρ : Type} {gauge : Gauge ρ}

/-- A filter that a program starts with can judge every record as soon as it is switched on. -/
theorem Started.exists_judge_enable {f : RangeFilter ρ} (h : Started gauge f) (record : ρ) :
    ∃ verdict, (f.apply (.edit (.enable true))).1.judge record = .ok verdict := by
  have hpermitted : (Operation.edit (.enable true)).Permitted f.range := trivial
  exact exists_judge_eq_ok (ordered_apply h.ordered hpermitted).lower_le_upper record

end RangeFilter

namespace Ceilings

/-- **No environment leads to a broken filter, and the first one stays in force.** All requests of a
process get the same ceilings, whatever the environments of the later ones are: those that the first
environment loads as, or the standard ones if it cannot be loaded. These ceilings pass the check. A
filter that starts with them, whatever its gauge, is switched off and not narrowed, has its bounds
in order on the domain from zero to the ceiling of its aspect, uses the factor of the system of the
deployment, and once it is switched on it can judge every record. -/
theorem requests_settled_by_first (env : Environment) (envs : List Environment) :
    ∃ c, (load env = .ok c ∨ (∃ e, load env = .error e) ∧ c = standard) ∧
      Settled.requests none (env :: envs) = List.replicate (envs.length + 1) c ∧
      c.check = .ok () ∧
      ∀ (ρ : Type) (gauge : Gauge ρ),
        let f := (RangeFilter.ofCeilings gauge c).1
        f.range.enabled = false ∧ ¬f.range.Narrowed ∧
        f.range.checkBounds gauge.aspect = .ok () ∧
        f.range.floor = zeroOf false ∧ f.range.ceiling = c.limitOf gauge.aspect ∧
        f.system = c.system ∧ f.coefficient = (gauge.conversion c.system).coefficient ∧
        ∀ record, ∃ verdict,
          (f.apply (.edit (.enable true))).1.judge record = .ok verdict := by
  have hcheck := check_loadOrStandard env
  refine ⟨loadOrStandard env, ?_, Settled.requests_none env envs, hcheck, ?_⟩
  · cases h : load env with
    | ok c => exact .inl (congrArg _ (loadOrStandard_of_ok h).symm)
    | error e => exact .inr ⟨⟨e, rfl⟩, loadOrStandard_of_error h⟩
  · intro ρ gauge f
    have hstarted : RangeFilter.Started gauge f := .ofCeilings hcheck
    refine ⟨rfl, Range.not_narrowed_untouched _ _, ?_, rfl, rfl, rfl, rfl, ?_⟩
    · exact Range.checkBounds_eq_ok_iff.2 hstarted.ordered
    · exact hstarted.exists_judge_enable

end Ceilings

end TrackSieve
