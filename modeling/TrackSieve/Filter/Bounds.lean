import TrackSieve.Decimal.Layout
import TrackSieve.Filter.Range
import TrackSieve.Filter.Refusal

/-!
# Checking the bounds of a range

The bounds of a range are in order if all are finite and `floor ≤ lower ≤ upper ≤ ceiling`. The
check names the first condition that fails, with the bounds that break it.
-/

namespace TrackSieve

/-- What is wrong with the bounds of a range: they are not all finite, or the two that are named are
out of order. -/
inductive BoundsFault
  | notFinite
  | lowerBelowFloor (lower floor : Binary64)
  | lowerAboveUpper (lower upper : Binary64)
  | upperAboveCeiling (upper ceiling : Binary64)
deriving DecidableEq

/-- The wording of a failed condition. -/
def BoundsFault.reason : BoundsFault → String
  | notFinite => "bounds must be finite"
  | lowerBelowFloor lower floor =>
    "value_from " ++ Layout.plain.text lower ++ " is below min_value " ++ Layout.plain.text floor
  | lowerAboveUpper lower upper =>
    "value_from " ++ Layout.plain.text lower ++ " exceeds value_to " ++ Layout.plain.text upper
  | upperAboveCeiling upper ceiling =>
    "value_to " ++ Layout.plain.text upper ++ " exceeds max_value " ++ Layout.plain.text ceiling

namespace Range

/-- The four bounds of a range. -/
def bounds (r : Range) : List Binary64 := [r.floor, r.ceiling, r.lower, r.upper]

/-- The first condition on the bounds that fails, if one does. -/
def boundsFault? (r : Range) : Option BoundsFault :=
  if ∃ x ∈ r.bounds, ¬x.IsFinite then some .notFinite
  else if r.lower < r.floor then some (.lowerBelowFloor r.lower r.floor)
  else if r.upper < r.lower then some (.lowerAboveUpper r.lower r.upper)
  else if r.ceiling < r.upper then some (.upperAboveCeiling r.upper r.ceiling)
  else none

/-- The check of the bounds of the filter of an aspect. -/
def checkBounds (r : Range) (a : Aspect) : Except Refusal Unit :=
  match r.boundsFault? with
  | some fault => .error (.invalidBounds a fault.reason)
  | none => .ok ()

end Range

end TrackSieve
