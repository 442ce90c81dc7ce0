import TrackSieve.Filter.Aspect
import TrackSieve.Measure.Conversion
import TrackSieve.Track.Basic

/-!
# Gauges

A gauge says how a range filter reads the records of one kind: which aspect it stands for, where
the metric value is found, and how it is shown in each measurement system. Every aspect of tracks
has a gauge of its own.
-/

namespace TrackSieve

/-- How a filter on records of type `ρ` reads them. `extract` is the metric value of a record, if it
was measured; the direction says how the factor of a conversion is applied to it. `defaultCeiling`
ends the domain of the filter, in display units. -/
structure Gauge (ρ : Type) where
  aspect : Aspect
  extract : ρ → Option Binary64
  direction : Direction
  conversion : MeasurementSystem → Conversion
  defaultCeiling : Binary64

namespace Gauge

/-- The gauge read through a view of other records. -/
def through {ρ σ : Type} (g : Gauge ρ) (view : σ → ρ) : Gauge σ :=
  { g with extract := fun record => g.extract (view record) }

end Gauge

namespace Aspect

/-- How the factors for an aspect are applied. -/
def direction (a : Aspect) : Direction :=
  match a.ceiling with
  | .length | .duration => .divide
  | .speed | .altitude | .elevationChange => .multiply

/-- The conversions for an aspect. -/
def conversion (a : Aspect) : MeasurementSystem → Conversion :=
  match a.ceiling with
  | .length => .distance
  | .speed => .speed
  | .duration => .duration
  | .altitude | .elevationChange => .elevation

/-- The gauge of an aspect of tracks. -/
def gauge (a : Aspect) : Gauge Track where
  aspect := a
  extract t := t.value? a.quantity
  direction := a.direction
  conversion := a.conversion
  defaultCeiling := a.ceiling.standard

end Aspect

end TrackSieve
