import Interop.Config.Validation
import Interop.Json.Value

/-!
# Errors that end a run

A declaration that has no binding is skipped; only what is listed here ends a run.
-/

namespace Interop

/-- Why a run did not come to its end. -/
inductive RunError where
  /-- A file or directory cannot be read or written. -/
  | io (reason : String)
  /-- The settings are unusable. -/
  | config (error : ConfigError)
  /-- None of the headers could be parsed. -/
  | noTranslationUnits (failed : Nat)
  /-- The text of the generated file cannot be composed. -/
  | template (reason : String)
  /-- There is no front end to parse with. -/
  | frontEndUnavailable (reason : String)
deriving DecidableEq, Inhabited

namespace RunError

/-- The error of a template with several causes, the outermost first. -/
def ofCauses (causes : List String) : RunError := .template (": ".intercalate causes)

/-- The error as one line of text. -/
def text : RunError → String
  | .io reason => reason
  | .config error => error.text
  | .noTranslationUnits failed =>
    "No translation unit could be parsed (" ++ toString failed ++ " input file(s) failed)"
  | .template reason => "Template rendering failed: " ++ reason
  | .frontEndUnavailable reason => "C/C++ front end unavailable: " ++ reason

/-- An error is handed on as its text. -/
def toJson (error : RunError) : Json.Value := .text error.text

end RunError

end Interop
