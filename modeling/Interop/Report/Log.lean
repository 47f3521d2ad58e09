import Interop.Native.Unit

/-!
# Log messages

What a run tells the user, as lines on two streams. How much of it is told depends on two
settings: errors, warnings and plain messages always are, the details of a run only when it is
verbose, and debug messages when it is verbose or debugged.
-/

namespace Interop

/-- Where a line goes. -/
inductive OutputStream where
  | output
  | errors
deriving DecidableEq, Inhabited

/-- A line that is told. -/
structure OutputLine where
  stream : OutputStream
  text : String
deriving DecidableEq, Inhabited

namespace OutputLine

/-- The text that some lines leave on a stream. -/
def textOn (stream : OutputStream) (lines : List OutputLine) : String :=
  String.join ((lines.filter (·.stream = stream)).map (·.text ++ "\n"))

end OutputLine

/-- How important a message is. -/
inductive LogLevel where
  | error
  | warning
  | info
  | debug
  | verbose
deriving DecidableEq, Inhabited

namespace LogLevel

/-- The mark in front of a message. -/
def mark : LogLevel → String
  | .error => "❌ "
  | .warning => "⚠️ "
  | .info => ""
  | .debug => "🔍 "
  | .verbose => "💬 "

/-- Where messages of a level go. -/
def stream : LogLevel → OutputStream
  | .error | .warning => .errors
  | .info | .debug | .verbose => .output

end LogLevel

namespace Severity

/-- The level at which a diagnostic is told. Notes help only with finding mistakes. -/
def level : Severity → LogLevel
  | .error | .fatal => .error
  | .warning => .warning
  | .note => .debug

end Severity

/-- How much is told. -/
structure Logger where
  verbose : Bool
  debug : Bool
deriving DecidableEq, Inhabited

namespace Logger

variable (logger : Logger)

/-- Whether messages of a level are told. -/
def shows : LogLevel → Bool
  | .error | .warning | .info => true
  | .debug => logger.debug || logger.verbose
  | .verbose => logger.verbose

/-- What is told of a message. -/
def log (level : LogLevel) (message : String) : List OutputLine :=
  if logger.shows level then [⟨level.stream, level.mark ++ message⟩] else []

/-- What is told of a diagnostic for a file. -/
def diagnostic (file : String) (diagnostic : Diagnostic) : List OutputLine :=
  logger.log diagnostic.severity.level (file ++ ": " ++ diagnostic.text)

end Logger

end Interop
