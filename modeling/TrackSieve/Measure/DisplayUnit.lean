/-!
# Display units

The units in which a filter shows the values it compares. A unit has a name in stored data, a key
under which localized labels are found, and an English label.
-/

namespace TrackSieve

/-- A unit that values are shown in. -/
inductive DisplayUnit
  | mile
  | nauticalMile
  | kilometer
  | milesPerHour
  | knots
  | kilometersPerHour
  | foot
  | meter
  | minute
deriving DecidableEq

namespace DisplayUnit

/-- All units. -/
def all : List DisplayUnit :=
  [mile, nauticalMile, kilometer, milesPerHour, knots, kilometersPerHour, foot, meter, minute]

/-- The name of a unit in stored data. -/
def name : DisplayUnit → String
  | mile => "mile"
  | nauticalMile => "nautical_mile"
  | kilometer => "kilometer"
  | milesPerHour => "miles_per_hour"
  | knots => "knots"
  | kilometersPerHour => "kilometers_per_hour"
  | foot => "foot"
  | meter => "meter"
  | minute => "minute"

/-- The key under which the label of a unit is found in any language. -/
def key : DisplayUnit → String
  | mile => "mile"
  | nauticalMile => "nm"
  | kilometer => "km"
  | milesPerHour => "mile_per_hour"
  | knots => "nm_h"
  | kilometersPerHour => "km_h"
  | foot => "foot"
  | meter => "m"
  | minute => "shared_string_minute_lowercase"

/-- The English label of a unit. -/
def label : DisplayUnit → String
  | mile => "mi"
  | nauticalMile => "nmi"
  | kilometer => "km"
  | milesPerHour => "mph"
  | knots => "kn"
  | kilometersPerHour => "km/h"
  | foot => "ft"
  | meter => "m"
  | minute => "min"

/-- The name of a unit in diagnostics. -/
def identifier : DisplayUnit → String
  | mile => "Mile"
  | nauticalMile => "NauticalMile"
  | kilometer => "Kilometer"
  | milesPerHour => "MilesPerHour"
  | knots => "Knots"
  | kilometersPerHour => "KilometersPerHour"
  | foot => "Foot"
  | meter => "Meter"
  | minute => "Minute"

/-- The unit of exactly this name. -/
def ofName? (s : String) : Option DisplayUnit := all.find? (·.name = s)

@[simp] theorem ofName?_name (u : DisplayUnit) : ofName? u.name = some u := by
  cases u <;> decide

end DisplayUnit

end TrackSieve
