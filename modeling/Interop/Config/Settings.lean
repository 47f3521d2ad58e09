import Interop.Binding.Run
import Interop.Files.Tree

/-!
# Settings

What a user can set for a run. Settings come from a configuration file and from the command line;
`merge` puts the ones over the others. A setting with its default value counts as not given, so
an explicit default does not override anything.
-/

namespace Interop

/-- The settings of a run. -/
structure Config where
  /-- Header files, and directories of header files. -/
  inputs : List String := []
  /-- The namespace of the generated source. -/
  nameSpace : String := ""
  /-- The path of the generated file. -/
  output : String := ""
  /-- The library that functions are imported from. -/
  library : String := ""
  includeDirs : List String := []
  /-- Macros to define, each a name or a name and its value. -/
  defines : List String := []
  /-- Further arguments of the front end. -/
  additionalArgs : List String := []
  /-- Leading text dropped from function names. -/
  dropped : Option String := none
  /-- The class that holds the functions. -/
  container : String := "Methods"
  /-- Native names of functions that are not bound. -/
  excluded : List String := []
  /-- The language of the headers. -/
  language : String := "c++"
  marshalStrings : Option Bool := none
  verbose : Option Bool := none
  debug : Option Bool := none
deriving DecidableEq, Inhabited

namespace Config

/-- The languages of headers that a run accepts. -/
def languages : List String := ["c", "c++"]

/-- The settings of a user who gives none. -/
def default : Config := {}

/-- The new value of a setting if it is given, that is not the default, and else the old one. -/
def pick [DecidableEq α] (unset old new : α) : α := if new = unset then old else new

/-- Settings with those that `other` gives in their place. -/
def merge (config other : Config) : Config where
  inputs := pick default.inputs config.inputs other.inputs
  nameSpace := pick default.nameSpace config.nameSpace other.nameSpace
  output := pick default.output config.output other.output
  library := pick default.library config.library other.library
  includeDirs := pick default.includeDirs config.includeDirs other.includeDirs
  defines := pick default.defines config.defines other.defines
  additionalArgs := pick default.additionalArgs config.additionalArgs other.additionalArgs
  dropped := pick default.dropped config.dropped other.dropped
  container := pick default.container config.container other.container
  excluded := pick default.excluded config.excluded other.excluded
  language := pick default.language config.language other.language
  marshalStrings := pick default.marshalStrings config.marshalStrings other.marshalStrings
  verbose := pick default.verbose config.verbose other.verbose
  debug := pick default.debug config.debug other.debug

@[simp] theorem pick_unset [DecidableEq α] (unset old : α) : pick unset old unset = old := by
  simp [pick]

theorem pick_of_ne [DecidableEq α] {unset old new : α} (h : new ≠ unset) :
    pick unset old new = new := by
  simp [pick, h]

/-- Nothing is overridden by a user who gives no settings. -/
@[simp] theorem merge_default (config : Config) : config.merge default = config := by
  simp [merge]

variable (config : Config)

/-! ## What the settings mean -/

/-- Whether every step of a run is told. -/
def isVerbose : Bool := config.verbose.getD false

/-- Whether notes for finding mistakes are told. -/
def isDebug : Bool := config.debug.getD false

/-- Whether constant character pointers become strings. -/
def marshalsStrings : Bool := config.marshalStrings.getD true

/-- The arguments of the front end: the language, the directories, the macros, the rest. -/
def frontEndArgs : List String :=
  ["-x", config.language] ++ config.includeDirs.map ("-I" ++ ·) ++
    config.defines.map ("-D" ++ ·) ++ config.additionalArgs

/-- How bindings are generated. -/
def bindingOptions : BindingOptions where
  nameSpace := config.nameSpace
  library := config.library
  container := config.container
  marshalStrings := config.marshalsStrings
  naming := .ofSettings config.dropped config.excluded

/-! ## The headers of a run -/

/-- The extensions of header files. -/
def headerExtensions : List String := ["h", "hh", "hpp", "hxx"]

/-- Whether a file name is that of a header. -/
def isHeader (name : String) : Bool :=
  match Path.extension? name with
  | some extension => headerExtensions.contains extension
  | none => false

/-- The headers that an input stands for: those below it if it is a directory, else itself. -/
def expandInput (tree : FileTree) (input : String) : List String :=
  if tree.isDirectory input then tree.filesBelow input isHeader else [input]

/-- The headers of a run, in the order in which they are parsed. -/
def inputFiles (tree : FileTree) : List String :=
  config.inputs.flatMap (expandInput tree)

end Config

end Interop
