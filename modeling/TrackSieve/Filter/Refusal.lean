import TrackSieve.Filter.Aspect
import TrackSieve.Measure.System

/-!
# Refusals

What is refused when names and ranges come from outside: settings, stored data, other programs.
-/

namespace TrackSieve

/-- Why input from outside is refused: no measurement system or no aspect has the given name, or the
bounds of a range are not valid, for the given reason. -/
inductive Refusal
  | unknownSystem (text : String)
  | unknownAspect (text : String)
  | invalidBounds (aspect : Aspect) (reason : String)
deriving DecidableEq

/-- The wording of a refusal. -/
def Refusal.message : Refusal → String
  | unknownSystem text => "Unknown measurement system: " ++ text
  | unknownAspect text => "Unknown filter type: " ++ text
  | invalidBounds a reason => "Invalid bounds for " ++ a.name ++ " filter: " ++ reason

/-- The measurement system that a setting selects; a refusal shows the setting as it was. -/
def MeasurementSystem.ofSetting (s : String) : Except Refusal MeasurementSystem :=
  match ofSetting? s with
  | some m => .ok m
  | none => .error (.unknownSystem s)

/-- The aspect of exactly this name. -/
def Aspect.ofName (s : String) : Except Refusal Aspect :=
  match ofName? s with
  | some a => .ok a
  | none => .error (.unknownAspect s)

end TrackSieve
