import TrackSieve.Binary64.Rounding

/-!
# The ceilings of filters

Aspects that are shown on one scale share the ceiling of their domain. There are five ceilings,
each with a value for deployments that do not set it.
-/

namespace TrackSieve

/-- A ceiling that a deployment can set, in display units. -/
inductive Ceiling
  | length
  | speed
  | duration
  | altitude
  | elevationChange
deriving DecidableEq

namespace Ceiling

/-- All ceilings, in the order in which they are stored. -/
def all : List Ceiling := [length, speed, duration, altitude, elevationChange]

/-- Every ceiling is listed. -/
theorem mem_all (c : Ceiling) : c ∈ all := by cases c <;> decide

/-- The name of a ceiling in stored data. -/
def name : Ceiling → String
  | length => "length_max"
  | speed => "speed_max"
  | duration => "duration_max"
  | altitude => "altitude_max"
  | elevationChange => "elevation_change_max"

/-- The value of a ceiling that is not set. -/
def standard : Ceiling → Binary64
  | length | speed | duration => .ofNat 300
  | altitude | elevationChange => .ofNat 10000

end Ceiling

end TrackSieve
