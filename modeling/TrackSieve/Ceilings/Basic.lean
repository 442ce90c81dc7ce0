import TrackSieve.Filter.Basic

/-!
# Ceilings of a deployment

A deployment fixes the five ceilings and the measurement system that filters start with. Ceilings
must be positive and finite.
-/

namespace TrackSieve

/-- The ceilings of a deployment, in display units, and the measurement system that filters start
with. -/
structure Ceilings where
  limit : Ceiling → Binary64
  system : MeasurementSystem

namespace Ceilings

@[ext] theorem ext {c d : Ceilings} (hl : ∀ k, c.limit k = d.limit k) (hs : c.system = d.system) :
    c = d := by
  cases c; cases d; simp_all; exact funext hl

/-- The ceilings of a deployment that sets nothing. -/
def standard : Ceilings := ⟨Ceiling.standard, default⟩

/-- The ceiling of the filter of an aspect. -/
def limitOf (c : Ceilings) (a : Aspect) : Binary64 := c.limit a.ceiling

/-- A value can be a ceiling. -/
def Admissible (x : Binary64) : Prop := x.IsFinite ∧ Binary64.zeroOf false < x

instance (x : Binary64) : Decidable (Admissible x) := inferInstanceAs (Decidable (_ ∧ _))

/-- The first ceiling whose value is not positive and finite. -/
def firstInadmissible? (c : Ceilings) : Option Ceiling :=
  Ceiling.all.find? fun k => ¬Admissible (c.limit k)

end Ceilings

/-- The filter whose domain ends at its ceiling, started in the system of the deployment. -/
def RangeFilter.ofCeilings {ρ : Type} (gauge : Gauge ρ) (c : Ceilings) :
    RangeFilter ρ × List Event :=
  (ofBounds gauge (.zeroOf false) (c.limitOf gauge.aspect)).apply (.select c.system)

end TrackSieve
