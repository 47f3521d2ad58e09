import Interop.Report.Log

/-!
# Progress of a run

A run goes through three steps. A verbose run tells when a step begins and when it is done; a
failure and the end of a run are always told.
-/

namespace Interop

/-- The steps of a run, in the order in which they are taken. -/
inductive RunStep where
  | parse
  | generate
  | write
deriving DecidableEq, Inhabited

namespace RunStep

/-- All steps. -/
def all : List RunStep := [.parse, .generate, .write]

/-- The position of a step among all, from one. -/
def number (step : RunStep) : Nat := all.idxOf step + 1

/-- What happens in a step. -/
def label : RunStep → String
  | .parse => "Parsing headers"
  | .generate => "Generating bindings"
  | .write => "Writing output"

/-- A step with its position. -/
def title (step : RunStep) : String :=
  step.label ++ " (" ++ toString step.number ++ "/" ++ toString all.length ++ ")"

end RunStep

/-- How far a run is. -/
structure Progress where
  logger : Logger
  /-- The step that is being taken or was taken last. -/
  current : Option RunStep := none
deriving DecidableEq, Inhabited

namespace Progress

variable (progress : Progress)

/-- Begin a step. -/
def begin (step : RunStep) : Progress := { progress with current := some step }

/-- What is told of a message when the run is verbose. -/
def announce (message : String) : List OutputLine :=
  if progress.logger.verbose then progress.logger.log .info message else []

/-- What is told when a step has begun. -/
def begun (step : RunStep) : List OutputLine := progress.announce ("🚀 " ++ step.title)

/-- What is told of a part of a step. -/
def detail (message : String) : List OutputLine := progress.logger.log .verbose message

/-- What is told when the step is done. -/
def done (outcome : Option String) : List OutputLine :=
  match progress.current, outcome with
  | some step, some outcome => progress.announce ("✅ " ++ step.label ++ " - " ++ outcome)
  | some step, none => progress.announce ("✅ " ++ step.label)
  | none, _ => []

/-- What is told when the step fails. -/
def failed (error : String) : List OutputLine :=
  let label := (progress.current.map (·.label)).getD "Generation"
  progress.logger.log .error (label ++ " failed: " ++ error)

/-- What is told when the run is over. -/
def finished (summary : String) : List OutputLine := [⟨.output, "✓ " ++ summary⟩]

end Progress

end Interop
