import Interop.Config.Settings
import Interop.Identifier

/-!
# Checking settings

All that is wrong with some settings, in a fixed order. A run starts only when there is nothing,
so the namespace and the class of a generated file can always be written in its source.
-/

namespace Interop

/-- Something wrong with a setting. -/
inductive ConfigProblem where
  | noInput
  | noOutput
  | noLibrary
  | noNameSpace
  | invalidNameSpace (text : String)
  | invalidContainer (text : String)
  | invalidDefine (text : String)
  | invalidLanguage (text : String)
deriving DecidableEq, Inhabited

namespace ConfigProblem

/-- A problem as the user reads it. -/
def message : ConfigProblem → String
  | .noInput => "no input file given (--file)"
  | .noOutput => "no output file given (--output)"
  | .noLibrary => "no library given (--libraryPath)"
  | .noNameSpace => "no namespace given (--namespace)"
  | .invalidNameSpace text => "invalid namespace: " ++ text
  | .invalidContainer text => "invalid class name: " ++ text
  | .invalidDefine text => "invalid define: " ++ text
  | .invalidLanguage text => "invalid language: " ++ text ++ ". Use 'c' or 'c++'"

end ConfigProblem

namespace Config

/-- Whether a text is a namespace: names with dots between them. -/
def isNameSpace (text : String) : Bool :=
  (Text.split '.' text).all Identifier.isWritten

/-- Whether a text defines a macro: an identifier, or an identifier, an equals sign and the rest
of a line. -/
def isDefine (text : String) : Bool :=
  let name := text.toList.takeWhile (· ≠ '=')
  let value := text.toList.dropWhile (· ≠ '=')
  Identifier.isValidChars name && !value.contains '\n'

variable (config : Config)

/-- What is wrong with the namespace. -/
def nameSpaceProblems : List ConfigProblem :=
  if Text.isBlankText config.nameSpace then [.noNameSpace]
  else if isNameSpace config.nameSpace then []
  else [.invalidNameSpace config.nameSpace]

/-- All that is wrong with the settings. -/
def problems : List ConfigProblem :=
  (if config.inputs = [] then [.noInput] else []) ++
  (if Text.isBlankText config.output then [.noOutput] else []) ++
  (if Text.isBlankText config.library then [.noLibrary] else []) ++
  config.nameSpaceProblems ++
  (if Identifier.isWritten config.container then [] else [.invalidContainer config.container]) ++
  (config.defines.filter (!isDefine ·)).map .invalidDefine ++
  (if languages.contains config.language then [] else [.invalidLanguage config.language])

/-- Whether a run can start. -/
def isValid : Bool := config.problems.isEmpty

end Config

/-- Why there are no usable settings. -/
inductive ConfigError where
  /-- The configuration file cannot be read. -/
  | unreadable (reason : String)
  /-- The configuration file does not hold settings. -/
  | malformed (reason : String)
  /-- The settings are checked and refused. -/
  | invalid (problems : List String)
deriving DecidableEq, Inhabited

namespace ConfigError

/-- The error as one line of text. -/
def text : ConfigError → String
  | .unreadable reason => "IO error: " ++ reason
  | .malformed reason => "JSON parsing error: " ++ reason
  | .invalid problems => "Invalid configuration: " ++ "; ".intercalate problems

/-- What is wrong, one entry for each problem. -/
def problems : ConfigError → List String
  | .invalid problems => problems
  | error => [error.text]

end ConfigError

namespace Config

/-- Check settings, all at once. -/
def validate (config : Config) : Except ConfigError Unit :=
  if config.isValid then .ok ()
  else .error (.invalid (config.problems.map (·.message)))

theorem isValid_iff {config : Config} : config.isValid = true ↔ config.problems = [] := by
  simp [isValid]

theorem validate_eq_ok_iff {config : Config} :
    config.validate = .ok () ↔ config.problems = [] := by
  rw [← isValid_iff]
  unfold validate
  split <;> simp_all

/-- Refused settings come with the messages of all their problems. -/
theorem validate_of_problems {config : Config} (h : config.problems ≠ []) :
    config.validate = .error (.invalid (config.problems.map (·.message))) := by
  have hinvalid : ¬ config.isValid = true := by rwa [isValid_iff]
  rw [validate, if_neg hinvalid]

end Config

end Interop
