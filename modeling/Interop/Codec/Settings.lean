import Interop.Config.Settings
import Interop.Json.Decode
import Interop.Json.Text
import Interop.Text.Split

/-!
# Settings in JSON

The form of a configuration file: an object with one member for each setting. Every member may be
missing and then has its default; only settings without a value of their own may be null. The
excluded functions are a list of texts or one text, and each text may name several, with commas
between them. Settings may also be an array, which gives their values in the order of the keys.
-/

namespace Interop.Config

open Json

/-- The keys of the settings, in the order in which they are written. -/
def keys : List String :=
  ["inputs", "namespace", "output", "library", "include_dirs", "defines", "additional_args",
   "prefix_strip", "container", "exclude", "language", "marshal_strings", "verbose", "debug"]

/-- The values of the settings, in the order of the keys. -/
def values (config : Config) : List Value :=
  [.ofList .text config.inputs, .text config.nameSpace, .text config.output,
   .text config.library, .ofList .text config.includeDirs, .ofList .text config.defines,
   .ofList .text config.additionalArgs, .ofOption .text config.dropped,
   .text config.container, .ofList .text config.excluded, .text config.language,
   .ofOption .bool config.marshalStrings, .ofOption .bool config.verbose,
   .ofOption .bool config.debug]

def toJson (config : Config) : Value := .object (keys.zip config.values)

/-- A list of texts. -/
def texts? (value : Value) : Option (List String) := value.elements fun part _ => part.text?

/-- The names of functions in a list of texts or in one text. -/
def names? : Value → Option (List String)
  | .text names => some (Text.splitNames names)
  | value => (texts? value).map (·.flatMap Text.splitNames)

/-- Settings from the members of an object. -/
def ofMembers? (value : Value) : Option Config := do
  let inputs ← value.optional "inputs" default.inputs fun part _ => texts? part
  let nameSpace ← value.optional "namespace" default.nameSpace fun part _ => part.text?
  let output ← value.optional "output" default.output fun part _ => part.text?
  let library ← value.optional "library" default.library fun part _ => part.text?
  let includeDirs ← value.optional "include_dirs" default.includeDirs fun part _ => texts? part
  let defines ← value.optional "defines" default.defines fun part _ => texts? part
  let additionalArgs ← value.optional "additional_args" default.additionalArgs
    fun part _ => texts? part
  let dropped ← value.nullable "prefix_strip" fun part _ => part.text?
  let container ← value.optional "container" default.container fun part _ => part.text?
  let excluded ← value.optional "exclude" default.excluded fun part _ => names? part
  let language ← value.optional "language" default.language fun part _ => part.text?
  let marshalStrings ← value.nullable "marshal_strings" fun part _ => part.bool?
  let verbose ← value.nullable "verbose" fun part _ => part.bool?
  let debug ← value.nullable "debug" fun part _ => part.bool?
  some { inputs, nameSpace, output, library, includeDirs, defines, additionalArgs, dropped,
         container, excluded, language, marshalStrings, verbose, debug }

def ofJson? : Value → Option Config
  | .object members => ofMembers? (.object members)
  | .array elements => if elements.length ≤ keys.length then
      ofMembers? (.object (keys.zip elements)) else none
  | _ => none

/-- Settings from the text of a configuration file. -/
def ofText? (text : String) : Option Config := Json.parse? text >>= ofJson?

/-- The text of a configuration file. -/
def text (config : Config) : String := config.toJson.pretty ""

end Interop.Config
