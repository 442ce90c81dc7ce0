import TrackSieve.Log.Report

/-!
# Log writers

A process has one log at most. Installing it fixes its directives and its format; a second log is
refused. Entries that the directives allow are written as lines.
-/

namespace TrackSieve.Log

/-- A log as it is installed: what it lets through, and the form of its lines. -/
structure Writer where
  directives : Directives
  format : Format

/-- Why a log cannot be installed: there is one already. -/
inductive InstallError
  | alreadyInstalled
deriving DecidableEq

/-- The wording of a refused log. -/
def InstallError.message : InstallError → String
  | alreadyInstalled => "a global default trace dispatcher has already been set"

/-- The log of a process after the attempt to install one with some settings. -/
def Settings.install (s : Settings) : Option Writer → Except InstallError Writer
  | none => .ok { directives := s.directives, format := s.format }
  | some _ => .error .alreadyInstalled

/-- The lines for the entries that are let through. -/
def Writer.lines (w : Writer) (entries : List Entry) : List Line :=
  (entries.filter fun e => w.directives.Allow e.target e.fieldNames e.level).flatMap
    (·.lines w.format)

end TrackSieve.Log
