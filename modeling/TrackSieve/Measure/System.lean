import TrackSieve.Text.Blank

/-!
# Measurement systems

A user selects one of six measurement systems. Distances and speeds depend only on the scale of
distances of a system, elevations only on whether they are shown in feet.
-/

namespace TrackSieve

/-- A measurement system that a user can select. -/
inductive MeasurementSystem
  | milesAndMeters
  | milesAndFeet
  | milesAndYards
  | nauticalMilesAndFeet
  | nauticalMilesAndMeters
  | kilometersAndMeters
deriving DecidableEq

/-- The scale on which a measurement system shows distances and speeds. -/
inductive DistanceScale
  | mile
  | nauticalMile
  | kilometer
deriving DecidableEq

namespace DistanceScale

/-- The name of a scale in diagnostics. -/
def identifier : DistanceScale → String
  | mile => "Mile"
  | nauticalMile => "NauticalMile"
  | kilometer => "Kilometer"

end DistanceScale

namespace MeasurementSystem

/-- All measurement systems, in the order of the settings. -/
def all : List MeasurementSystem :=
  [milesAndMeters, milesAndFeet, milesAndYards, nauticalMilesAndFeet, nauticalMilesAndMeters,
    kilometersAndMeters]

/-- Every measurement system is listed. -/
theorem mem_all (m : MeasurementSystem) : m ∈ all := by cases m <;> decide

/-- The system in force until a user selects one. -/
instance : Inhabited MeasurementSystem := ⟨kilometersAndMeters⟩

/-- The scale of distances of a system. -/
def scale : MeasurementSystem → DistanceScale
  | milesAndMeters | milesAndFeet | milesAndYards => .mile
  | nauticalMilesAndFeet | nauticalMilesAndMeters => .nauticalMile
  | kilometersAndMeters => .kilometer

/-- Whether a system shows elevations in feet. -/
def usesFeet : MeasurementSystem → Bool
  | milesAndFeet | milesAndYards | nauticalMilesAndFeet => true
  | _ => false

/-- The name of a system in settings and stored data. -/
def name : MeasurementSystem → String
  | milesAndMeters => "MILES_AND_METERS"
  | milesAndFeet => "MILES_AND_FEET"
  | milesAndYards => "MILES_AND_YARDS"
  | nauticalMilesAndFeet => "NAUTICAL_MILES_AND_FEET"
  | nauticalMilesAndMeters => "NAUTICAL_MILES_AND_METERS"
  | kilometersAndMeters => "KILOMETERS_AND_METERS"

/-- The name of a system in diagnostics. -/
def identifier : MeasurementSystem → String
  | milesAndMeters => "MilesAndMeters"
  | milesAndFeet => "MilesAndFeet"
  | milesAndYards => "MilesAndYards"
  | nauticalMilesAndFeet => "NauticalMilesAndFeet"
  | nauticalMilesAndMeters => "NauticalMilesAndMeters"
  | kilometersAndMeters => "KilometersAndMeters"

/-- The system of exactly this name. -/
def ofName? (s : String) : Option MeasurementSystem := all.find? (·.name = s)

@[simp] theorem ofName?_name (m : MeasurementSystem) : ofName? m.name = some m := by
  cases m <;> decide

/-- A name is read as the system that bears it, and as nothing else. -/
theorem ofName?_eq_some_iff {s : String} {m : MeasurementSystem} :
    ofName? s = some m ↔ s = m.name := by
  constructor
  · intro h
    simpa [eq_comm] using List.find?_some h
  · rintro rfl
    exact ofName?_name m

/-- The system that a setting selects: blanks around the name and the case of its ASCII letters
do not matter. -/
def ofSetting? (s : String) : Option MeasurementSystem :=
  ofName? (String.ofList ((Text.trim s.toList).map Char.toUpper))

end MeasurementSystem

end TrackSieve
