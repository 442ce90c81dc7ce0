import TrackSieve.Binary64.Rounding
import TrackSieve.Decimal.Rounding
import TrackSieve.Track.Basic

/-!
# A library of tracks for measurements

Tracks made from their number alone, a mix like the one of a real library: every seventeenth track
is not analysed yet, and the others lack two of the nine quantities.
-/

namespace TrackSieve.Track

/-- The analysis of the track of a number. -/
def sampleAnalysis (i : Nat) : Analysis :=
  let distance := Binary64.ofNat (i * 7919 % 250000)
  let duration := Binary64.ofNat (600 + i * 131 % 14400)
  .ofList [
    (.totalDistance, distance),
    (.maxSpeed, .ofNat (i * 37 % 60)),
    (.avgSpeed, distance / duration),
    (.timeSpan, duration),
    (.timeMoving, duration * .ofDecimal false 8 (-1)),
    (.maxElevation, .ofNat (i * 53 % 4000)),
    (.ascent, .ofNat (i * 29 % 2500))]

/-- The track of a number. -/
def sample (i : Nat) : Track where
  name := s!"Track {i}"
  path := s!"tracks/bench_{i}.gpx"
  analysis := if i % 17 = 0 then none else some (sampleAnalysis i)

/-- The library with the given number of tracks. -/
def library (size : Nat) : List Track := (List.range size).map sample

end TrackSieve.Track
