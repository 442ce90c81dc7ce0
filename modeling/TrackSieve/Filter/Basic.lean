import TrackSieve.Filter.Range
import TrackSieve.Filter.Gauge

/-!
# Range filters

A range filter is a gauge with a range and with the conversion of a measurement system.
Operations edit the range or select a system. An operation yields the new filter and what it makes
known, in order: a report for the log and, if the range changed, a notification of the listener.
Judging a record changes nothing and makes nothing known.
-/

namespace TrackSieve

/-- A range filter on records of type `ρ`: how they are read, the range that their values are
compared with, and the measurement system in force, with the factor between metric and display
units. -/
structure RangeFilter (ρ : Type) where
  gauge : Gauge ρ
  range : Range
  system : MeasurementSystem
  coefficient : Binary64

/-- An operation on a range filter. Once a measurement system is selected, the bounds are read in
its units. -/
inductive Operation
  | edit (e : Edit)
  | select (m : MeasurementSystem)

/-- What a filter reports of itself to the log: a measurement system was selected, with the
conversion that is in force now, or an edit changed the range. -/
inductive Report
  | initialised (aspect : Aspect) (system : MeasurementSystem) (conversion : Conversion)
  | edited (aspect : Aspect) (e : Edit)

/-- What an operation makes known: a report for the log, or a notification of the listener of the
filter of an aspect. -/
inductive Event
  | reported (r : Report)
  | notified (aspect : Aspect)

/-- Why a record cannot be judged: the bounds of the selection are out of order, or one of them is
no number. -/
inductive Fault
  | invertedSelection
deriving DecidableEq

/-- The wording of a fault. -/
def Fault.message : Fault → String
  | .invertedSelection => "value_from must not exceed value_to"

namespace RangeFilter

variable {ρ σ : Type}

/-- The filter that is switched off and open from a floor to a ceiling, in the standard system. -/
def ofBounds (gauge : Gauge ρ) (floor ceiling : Binary64) : RangeFilter ρ where
  gauge := gauge
  range := .untouched floor ceiling
  system := default
  coefficient := (gauge.conversion default).coefficient

/-- The filter that is switched off and open from zero to the ceiling of its gauge. -/
def ofGauge (gauge : Gauge ρ) : RangeFilter ρ := ofBounds gauge (.zeroOf false) gauge.defaultCeiling

/-- The filter read through a view of other records. -/
def through (f : RangeFilter ρ) (view : σ → ρ) : RangeFilter σ :=
  { f with gauge := f.gauge.through view }

/-- The display unit in force. -/
def unit (f : RangeFilter ρ) : DisplayUnit := (f.gauge.conversion f.system).unit

/-- The filter after an operation, and what the operation makes known. -/
def apply (f : RangeFilter ρ) : Operation → RangeFilter ρ × List Event
  | .edit e =>
    match f.range.edit? e with
    | none => (f, [])
    | some range =>
      ({ f with range },
        [.reported (.edited f.gauge.aspect e), .notified f.gauge.aspect])
  | .select m =>
    let conversion := f.gauge.conversion m
    ({ f with system := m, coefficient := conversion.coefficient },
      [.reported (.initialised f.gauge.aspect m conversion)])

/-- A metric value in the display unit in force. -/
def normalize (f : RangeFilter ρ) (raw : Binary64) : Binary64 :=
  f.gauge.direction.apply raw f.coefficient

/-- A metric value is selected: it was measured, is not zero, and its display value is selected. -/
def Selects (f : RangeFilter ρ) : Option Binary64 → Prop
  | none => False
  | some raw => ¬raw.IsZero ∧ f.range.Accepts (f.normalize raw)

instance (f : RangeFilter ρ) : (raw? : Option Binary64) → Decidable (f.Selects raw?)
  | none => isFalse id
  | some _ => inferInstanceAs (Decidable (_ ∧ _))

/-- Whether a record is accepted. A filter that is switched off accepts every record. -/
def judge (f : RangeFilter ρ) (record : ρ) : Except Fault Bool :=
  if !f.range.enabled then .ok true
  else if f.range.lower ≤ f.range.upper then .ok (decide (f.Selects (f.gauge.extract record)))
  else .error .invertedSelection

end RangeFilter

end TrackSieve
