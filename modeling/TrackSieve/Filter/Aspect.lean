import TrackSieve.Ceilings.Ceiling
import TrackSieve.Track.Quantity

/-!
# Aspects

The nine aspects of a track that can be filtered. Each belongs to one measured quantity and to
one ceiling.
-/

namespace TrackSieve

/-- An aspect that tracks are filtered by. -/
inductive Aspect
  | length
  | maxSpeed
  | averageSpeed
  | duration
  | timeInMotion
  | maxAltitude
  | averageAltitude
  | uphill
  | downhill
deriving DecidableEq

namespace Aspect

/-- All aspects, in the order in which they are shown. -/
def all : List Aspect :=
  [length, maxSpeed, averageSpeed, duration, timeInMotion, maxAltitude, averageAltitude, uphill,
    downhill]

/-- The name of an aspect in stored data. -/
def name : Aspect → String
  | length => "length"
  | maxSpeed => "max_speed"
  | averageSpeed => "average_speed"
  | duration => "duration"
  | timeInMotion => "time_in_motion"
  | maxAltitude => "max_altitude"
  | averageAltitude => "average_altitude"
  | uphill => "uphill"
  | downhill => "downhill"

/-- The name of an aspect in diagnostics. -/
def identifier : Aspect → String
  | length => "Length"
  | maxSpeed => "MaxSpeed"
  | averageSpeed => "AverageSpeed"
  | duration => "Duration"
  | timeInMotion => "TimeInMotion"
  | maxAltitude => "MaxAltitude"
  | averageAltitude => "AverageAltitude"
  | uphill => "Uphill"
  | downhill => "Downhill"

/-- The aspect of exactly this name. -/
def ofName? (s : String) : Option Aspect := all.find? (·.name = s)

@[simp] theorem ofName?_name (a : Aspect) : ofName? a.name = some a := by
  cases a <;> decide

/-- A name is read as the aspect that bears it, and as nothing else. -/
theorem ofName?_eq_some_iff {s : String} {a : Aspect} : ofName? s = some a ↔ s = a.name := by
  constructor
  · intro h
    simpa [eq_comm] using List.find?_some h
  · rintro rfl
    exact ofName?_name a

/-- The measured quantity behind an aspect. -/
def quantity : Aspect → Quantity
  | length => .totalDistance
  | maxSpeed => .maxSpeed
  | averageSpeed => .avgSpeed
  | duration => .timeSpan
  | timeInMotion => .timeMoving
  | maxAltitude => .maxElevation
  | averageAltitude => .avgElevation
  | uphill => .ascent
  | downhill => .descent

/-- The ceiling that bounds an aspect. -/
def ceiling : Aspect → Ceiling
  | length => .length
  | maxSpeed | averageSpeed => .speed
  | duration | timeInMotion => .duration
  | maxAltitude | averageAltitude => .altitude
  | uphill | downhill => .elevationChange

end Aspect

end TrackSieve
