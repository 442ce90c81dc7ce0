/-!
# Measured quantities

The nine quantities that the analysis of a track may hold, in metric units.
-/

namespace TrackSieve

/-- A quantity that the analysis of a track may hold: distances and heights in metres, speeds in
metres per second, times in seconds. The time span reaches from the first point to the last; ascent
and descent are sums over the whole track. -/
inductive Quantity
  | totalDistance
  | maxSpeed
  | avgSpeed
  | timeSpan
  | timeMoving
  | maxElevation
  | avgElevation
  | ascent
  | descent
deriving DecidableEq

namespace Quantity

/-- All quantities, in the order in which they are stored. -/
def all : List Quantity :=
  [totalDistance, maxSpeed, avgSpeed, timeSpan, timeMoving, maxElevation, avgElevation, ascent,
    descent]

/-- Every quantity is listed. -/
theorem mem_all (q : Quantity) : q ∈ all := by cases q <;> decide

/-- The name of a quantity in stored data. -/
def name : Quantity → String
  | totalDistance => "total_distance"
  | maxSpeed => "max_speed"
  | avgSpeed => "avg_speed"
  | timeSpan => "time_span"
  | timeMoving => "time_moving"
  | maxElevation => "max_elevation"
  | avgElevation => "avg_elevation"
  | ascent => "diff_elevation_up"
  | descent => "diff_elevation_down"

/-- The quantity of exactly this name. -/
def ofName? (s : String) : Option Quantity := all.find? (·.name = s)

/-- Different quantities have different names. -/
theorem name_injective {p q : Quantity} (h : p.name = q.name) : p = q := by
  cases p <;> cases q <;> first | rfl | exact absurd h (by decide)

end Quantity

end TrackSieve
