import TrackSieve.Decimal.Layout
import TrackSieve.Filter.Basic

/-!
# Diagnostic texts

Gauges, ranges and filters as they are shown to developers: a name and the fields in braces. An
ellipsis stands for fields that are not shown.
-/

namespace TrackSieve

/-- A name with shown fields in braces. -/
def diagnostic (name : String) (fields : List (String × String)) (ellipsis : Bool) : String :=
  let shown := fields.map (fun f => f.1 ++ ": " ++ f.2) ++ if ellipsis then [".."] else []
  name ++ " \x7b " ++ ", ".intercalate shown ++ " \x7d"

/-- The text of a switch. -/
def switchText (on : Bool) : String := if on then "true" else "false"

namespace Range

/-- The shown fields of a range. -/
def diagnosticFields (r : Range) : List (String × String) := [
  ("min_value", Layout.diagnostic.text r.floor),
  ("max_value", Layout.diagnostic.text r.ceiling),
  ("value_from", Layout.diagnostic.text r.lower),
  ("value_to", Layout.diagnostic.text r.upper),
  ("enabled", switchText r.enabled)]

/-- The diagnostic text of a range. -/
def diagnosticText (r : Range) : String :=
  diagnostic "RangeFilterState" r.diagnosticFields false

end Range

/-- The diagnostic text of a gauge. -/
def Gauge.diagnosticText {ρ : Type} (g : Gauge ρ) : String :=
  diagnostic "AttributeSpec" [
    ("filter_type", g.aspect.identifier),
    ("normalization", g.direction.identifier),
    ("default_max", Layout.diagnostic.text g.defaultCeiling)] true

/-- The diagnostic text of a filter. -/
def RangeFilter.diagnosticText {ρ : Type} (f : RangeFilter ρ) : String :=
  diagnostic "RangeFilter" (
    [("filter_type", f.gauge.aspect.identifier)] ++ f.range.diagnosticFields ++
    [("coefficient", Layout.diagnostic.text f.coefficient),
      ("measurement_system", f.system.identifier)]) true

end TrackSieve
