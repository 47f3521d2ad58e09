import Interop.Config.Settings

/-!
# Command line arguments

The options of the command line and what is found of them: a setting takes a value, a switch takes
none. Some settings collect all values that they are given; every other option is given at most
once.
-/

namespace Interop

/-- Why a command line is not run. Asking for help or for the version counts among the reasons. -/
inductive UsageError where
  | unknownArgument
  | invalidValue
  | argumentConflict
  | tooManyValues
  | displayHelp
  | displayVersion
deriving DecidableEq, Inhabited

/-- An option that takes a value. -/
inductive Setting where
  | files
  | nameSpace
  | output
  | library
  | includeDirs
  | defines
  | additional
  | dropped
  | container
  | excluded
  | language
  | configFile
deriving DecidableEq, Inhabited

namespace Setting

/-- Whether a setting goes on to take values after its first one. -/
def takesMany : Setting → Bool
  | .files | .includeDirs | .defines => true
  | _ => false

/-- Whether the first value of a setting may look like an option. -/
def takesHyphens : Setting → Bool
  | .additional => true
  | _ => false

end Setting

/-- An option that takes no value. -/
inductive Switch where
  | noStringMarshalling
  | verbose
  | debug
  | help
  | version
deriving DecidableEq, Inhabited

/-- An option of the command line. -/
inductive CommandOption where
  | setting (setting : Setting)
  | switch (switch : Switch)
deriving DecidableEq, Inhabited

namespace CommandOption

/-- The option with a long name. Names are never abbreviated, but most have a second, short
spelling. -/
def ofName? : String → Option CommandOption
  | "file" | "f" => some (.setting .files)
  | "namespace" | "n" => some (.setting .nameSpace)
  | "output" | "o" => some (.setting .output)
  | "libraryPath" | "l" => some (.setting .library)
  | "include" | "i" => some (.setting .includeDirs)
  | "define" | "d" => some (.setting .defines)
  | "additional" | "a" => some (.setting .additional)
  | "prefixStrip" | "p" => some (.setting .dropped)
  | "methodClassName" | "m" => some (.setting .container)
  | "excludeFunctions" | "e" => some (.setting .excluded)
  | "language" => some (.setting .language)
  | "config" => some (.setting .configFile)
  | "noStringMarshalling" => some (.switch .noStringMarshalling)
  | "verbose" => some (.switch .verbose)
  | "debug" => some (.switch .debug)
  | "help" => some (.switch .help)
  | "version" => some (.switch .version)
  | _ => none

/-- The option with a one-letter name. -/
def ofLetter? : Char → Option CommandOption
  | 'c' => some (.setting .configFile)
  | 'h' => some (.switch .help)
  | 'V' => some (.switch .version)
  | _ => none

end CommandOption

/-- What a command line gives. -/
structure CommandLine where
  files : List String := []
  nameSpace : Option String := none
  output : Option String := none
  library : Option String := none
  includeDirs : List String := []
  defines : List String := []
  additionalArgs : List String := []
  dropped : Option String := none
  container : Option String := none
  /-- Names of functions, with commas between them. -/
  excluded : Option String := none
  language : Option String := none
  noStringMarshalling : Bool := false
  configFile : Option String := none
  verbose : Bool := false
  debug : Bool := false
deriving DecidableEq, Inhabited

namespace CommandLine

/-- Collect the values of a setting; there has to be one. -/
def collect (old values : List String) : Except UsageError (List String) :=
  if values = [] then .error .invalidValue else .ok (old ++ values)

/-- Take the value of a setting that is given at most once and has to be acceptable. -/
def once (old : Option String) (values : List String) (accepts : String → Bool) :
    Except UsageError (Option String) :=
  match values with
  | [] => .error .invalidValue
  | value :: _ =>
    if old.isSome then .error .argumentConflict
    else if accepts value then .ok (some value)
    else .error .invalidValue

variable (line : CommandLine)

/-- Give a setting its values. -/
def give (setting : Setting) (values : List String) : Except UsageError CommandLine :=
  match setting with
  | .files => (collect line.files values).map fun files => { line with files }
  | .includeDirs =>
    (collect line.includeDirs values).map fun includeDirs => { line with includeDirs }
  | .defines => (collect line.defines values).map fun defines => { line with defines }
  | .additional =>
    (collect line.additionalArgs values).map fun additionalArgs => { line with additionalArgs }
  | .nameSpace =>
    (once line.nameSpace values fun _ => true).map fun nameSpace => { line with nameSpace }
  | .output => (once line.output values fun _ => true).map fun output => { line with output }
  | .library => (once line.library values fun _ => true).map fun library => { line with library }
  | .dropped => (once line.dropped values fun _ => true).map fun dropped => { line with dropped }
  | .container =>
    (once line.container values fun _ => true).map fun container => { line with container }
  | .excluded =>
    (once line.excluded values fun _ => true).map fun excluded => { line with excluded }
  | .language =>
    (once line.language values fun value => Config.languages.contains value).map
      fun language => { line with language }
  | .configFile =>
    (once line.configFile values (· ≠ "")).map fun configFile => { line with configFile }

/-- Turn a switch on. Help and version stop the reading of the command line. -/
def turnOn (switch : Switch) : Except UsageError CommandLine :=
  match switch with
  | .noStringMarshalling =>
    if line.noStringMarshalling then .error .argumentConflict
    else .ok { line with noStringMarshalling := true }
  | .verbose =>
    if line.verbose then .error .argumentConflict else .ok { line with verbose := true }
  | .debug => if line.debug then .error .argumentConflict else .ok { line with debug := true }
  | .help => .error .displayHelp
  | .version => .error .displayVersion

/-- The settings that a command line gives. -/
def config : Config where
  inputs := line.files
  nameSpace := line.nameSpace.getD Config.default.nameSpace
  output := line.output.getD Config.default.output
  library := line.library.getD Config.default.library
  includeDirs := line.includeDirs
  defines := line.defines
  additionalArgs := line.additionalArgs
  dropped := line.dropped
  container := line.container.getD Config.default.container
  excluded := (line.excluded.map Text.splitNames).getD Config.default.excluded
  language := line.language.getD Config.default.language
  marshalStrings := if line.noStringMarshalling then some false else none
  verbose := if line.verbose then some true else none
  debug := if line.debug then some true else none

end CommandLine

end Interop
