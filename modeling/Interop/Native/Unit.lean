import Interop.Native.Declaration

/-!
# Parsed headers

What the front end answers for one header: the tree of its declarations together with the
diagnostics met on the way, or the reason why there is no tree.
-/

namespace Interop

/-- How bad a diagnostic is. -/
inductive Severity where
  | note
  | warning
  | error
  | fatal
deriving DecidableEq, Inhabited

namespace Severity

/-- The word for a severity in a message. -/
def label : Severity → String
  | .note => "note"
  | .warning => "warning"
  | .error => "error"
  | .fatal => "fatal error"

/-- Whether a diagnostic of this severity reports an error. -/
def isError : Severity → Bool
  | .note | .warning => false
  | .error | .fatal => true

end Severity

/-- A message of the front end. -/
structure Diagnostic where
  severity : Severity
  message : String
deriving DecidableEq, Inhabited

namespace Diagnostic

/-- A diagnostic as one line of text. -/
def text (diagnostic : Diagnostic) : String :=
  diagnostic.severity.label ++ ": " ++ diagnostic.message

end Diagnostic

/-- One parsed header. -/
structure TranslationUnit where
  path : String
  root : Declaration
  diagnostics : List Diagnostic

namespace TranslationUnit

/-- A header with the given top-level declarations and no diagnostics. -/
def ofDeclarations (path : String) (declarations : List Declaration) : TranslationUnit :=
  ⟨path, .root declarations, []⟩

/-- The declarations that a header offers, in the order of the source. -/
def declarations (parsed : TranslationUnit) : List Declaration :=
  parsed.root.walk

end TranslationUnit

/-- Why a header could not be parsed. -/
structure ParseFailure where
  path : String
  reason : String
  diagnostics : List Diagnostic

namespace ParseFailure

/-- A failure as one line of text. -/
def text (failure : ParseFailure) : String :=
  "failed to parse " ++ failure.path ++ ": " ++ failure.reason

end ParseFailure

end Interop
