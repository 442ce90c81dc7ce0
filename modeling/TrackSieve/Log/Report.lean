import TrackSieve.Ceilings.Load
import TrackSieve.Log.Entry

/-!
# What is logged

The entries for the reports of filters, for the loading of ceilings and for the start of the log.
-/

namespace TrackSieve

namespace Log

/-- The target of the log itself. -/
def logTarget : String := Settings.ownTarget ++ "::logging"

/-- The target of the ceilings. -/
def ceilingsTarget : String := Settings.ownTarget ++ "::config"

/-- The target of the filters. -/
def filterTarget : String := Settings.ownTarget ++ "::filters::range"

/-- The entry that starts the log. -/
def Settings.startEntry (s : Settings) : Entry where
  level := .info
  target := logTarget
  message := "Track range filters logging initialised"
  fields := [
    ("service.name", .text s.serviceName),
    ("service.version", .text s.serviceVersion),
    ("log.level", .text s.level),
    ("log.format", .text s.format.identifier)]

end Log

namespace Ceilings

open Log

/-- The entry for ceilings that were loaded. -/
def loadedEntry (c : Ceilings) : Entry where
  level := .info
  target := ceilingsTarget
  message := "Filter ceilings loaded"
  fields := [
    ("length_max", .double (c.limit .length)),
    ("speed_max", .double (c.limit .speed)),
    ("system", .text c.system.name)]

/-- The entry for standard ceilings in place of ones that could not be loaded. -/
def fallbackEntry (e : LoadError) : Entry where
  level := .warn
  target := ceilingsTarget
  message := "Failed to load filter ceilings config: " ++ e.message ++ ", using defaults"
  fields := []

/-- What is logged when ceilings are loaded. -/
def loadEntries : Except LoadError Ceilings → List Entry
  | .ok c => [c.loadedEntry]
  | .error _ => []

/-- What is logged when the ceilings of a process are settled. -/
def settleEntries : Option (Except LoadError Ceilings) → List Entry
  | none => []
  | some (.ok c) => [c.loadedEntry]
  | some (.error e) => [fallbackEntry e]

end Ceilings

open Log

/-- The message and the further values for an edit of a range. -/
def Edit.logged : Edit → String × List (String × Value)
  | enable on => ("Range filter toggled", [("enabled", .switch on)])
  | moveLower x => ("Range lower bound changed", [("value_from", .double x)])
  | moveUpper x => ("Range upper bound changed", [("value_to", .double x)])
  | reset => ("Range selection reset", [])
  | moveCeiling x => ("Range ceiling updated", [("max_value", .double x)])
  | restore stored => ("Range filter restored", [("state", .text stored.diagnosticText)])

/-- The entry for a report of a filter. -/
def Report.entry : Report → Entry
  | initialised a m c => {
      level := .debug
      target := filterTarget
      message := "Range filter initialised"
      fields := [
        ("filter", .text a.name),
        ("system", .text m.name),
        ("coefficient", .double c.coefficient),
        ("unit", .text c.unit.key)] }
  | edited a e => {
      level := .trace
      target := filterTarget
      message := e.logged.1
      fields := ("filter", .text a.name) :: e.logged.2 }

/-- The entry for an event, if it is a report. -/
def Event.entry? : Event → Option Entry
  | reported r => some r.entry
  | notified _ => none

end TrackSieve
