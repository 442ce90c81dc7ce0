import TrackSieve.Binary64.Rounding
import TrackSieve.Decimal.Rounding
import TrackSieve.Measure.DisplayUnit
import TrackSieve.Measure.System

/-!
# Conversions to display units

Recorded values are metric. A conversion names a display unit and the factor between it and the
metric unit; the direction says whether the metric value is multiplied or divided by the factor.
There is one table of conversions for distances, speeds, durations and elevations.
-/

namespace TrackSieve

/-- How a factor is applied to a metric value: it multiplies the value if it counts display units in
a metric unit, and divides it if it counts metric units in a display unit. -/
inductive Direction
  | multiply
  | divide
deriving DecidableEq

namespace Direction

/-- The name of a direction. -/
def name : Direction → String
  | multiply => "multiply"
  | divide => "divide"

/-- The name of a direction in diagnostics. -/
def identifier : Direction → String
  | multiply => "Multiply"
  | divide => "Divide"

/-- The direction of exactly this name. -/
def ofName? (s : String) : Option Direction := [multiply, divide].find? (·.name = s)

/-- A metric value in display units. -/
def apply (d : Direction) (raw factor : Binary64) : Binary64 :=
  match d with
  | multiply => raw * factor
  | divide => raw / factor

end Direction

/-- A factor between metric and display units, and the display unit it leads to. -/
structure Conversion where
  coefficient : Binary64
  unit : DisplayUnit
deriving DecidableEq

namespace Conversion

/-- Metres in a statute mile. -/
def metersPerMile : Binary64 := .ofDecimal false 1609344 (-3)

/-- Metres in a nautical mile. -/
def metersPerNauticalMile : Binary64 := .ofNat 1852

/-- Metres in a kilometre. -/
def metersPerKilometer : Binary64 := .ofNat 1000

/-- Feet in a metre. -/
def feetPerMeter : Binary64 := .ofDecimal false 328084 (-5)

/-- Seconds in a minute. -/
def secondsPerMinute : Binary64 := .ofNat 60

/-- Miles per hour in a metre per second. -/
def milesPerHourFactor : Binary64 := .ofDecimal false 2237 (-3)

/-- Knots in a metre per second. -/
def knotsFactor : Binary64 := .ofDecimal false 194384 (-5)

/-- Kilometres per hour in a metre per second. -/
def kilometersPerHourFactor : Binary64 := .ofDecimal false 36 (-1)

/-- The conversion of distances, from metres. -/
def distance (m : MeasurementSystem) : Conversion :=
  match m.scale with
  | .mile => ⟨metersPerMile, .mile⟩
  | .nauticalMile => ⟨metersPerNauticalMile, .nauticalMile⟩
  | .kilometer => ⟨metersPerKilometer, .kilometer⟩

/-- The conversion of speeds, from metres per second. -/
def speed (m : MeasurementSystem) : Conversion :=
  match m.scale with
  | .mile => ⟨milesPerHourFactor, .milesPerHour⟩
  | .nauticalMile => ⟨knotsFactor, .knots⟩
  | .kilometer => ⟨kilometersPerHourFactor, .kilometersPerHour⟩

/-- The conversion of durations, from seconds: minutes in every system. -/
def duration (_ : MeasurementSystem) : Conversion := ⟨secondsPerMinute, .minute⟩

/-- The conversion of elevations, from metres. -/
def elevation (m : MeasurementSystem) : Conversion :=
  if m.usesFeet then ⟨feetPerMeter, .foot⟩ else ⟨.ofNat 1, .meter⟩

end Conversion

end TrackSieve
