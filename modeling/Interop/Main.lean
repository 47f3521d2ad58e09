import Interop.Codec.Answer
import Interop.CommandLine.Load
import Interop.Run.Pipeline

/-!
# The program

The command line of the program. A header is not parsed here: its declarations are read as JSON
from the file beside it whose name has `.json` at the end. All else is decided by `Config.run` on
a picture of the files concerned; this module only reads the files, writes the one that is
generated, and prints.
-/

namespace Interop.Program

/-- What `--help` tells. -/
def help : List String :=
  ["Generate C# P/Invoke bindings from C/C++ headers", "", CommandLine.usage, "", "Options:",
   "  --file <PATH>...            header files or directories of header files",
   "  --namespace <NAME>          namespace of the generated file",
   "  --output <PATH>             path of the generated file",
   "  --libraryPath <NAME>        library that functions are imported from",
   "  --include <DIR>...          include directories of the front end",
   "  --define <NAME[=VALUE]>...  macros to define",
   "  --additional <ARG>          a further argument of the front end",
   "  --prefixStrip <TEXT>        leading text dropped from function names",
   "  --methodClassName <NAME>    class that holds the functions",
   "  --excludeFunctions <NAMES>  native names of functions to leave out",
   "  --language <c|c++>          language of the headers",
   "  --noStringMarshalling       keep constant character pointers as pointers",
   "  -c, --config <FILE>         configuration file in JSON",
   "  --verbose                   tell every step",
   "  --debug                     tell notes for finding mistakes",
   "  -h, --help                  print this text",
   "  -V, --version               print the version"]

/-- Why a command line is refused, for the user. -/
def refusal : UsageError → String
  | .unknownArgument => "unexpected argument"
  | .invalidValue => "a value is missing or not acceptable"
  | .argumentConflict => "an argument is given more than once"
  | .tooManyValues => "an argument takes no value"
  | .displayHelp | .displayVersion => ""

/-- The content of a file, if it can be read. -/
def readFile? (path : String) : IO (Option String) := do
  try
    let content ← IO.FS.readFile path
    return some content
  catch _ => return none

/-- Put all that is below a directory into a tree. Links are not followed. -/
partial def addBelow (path : String) (names : List String) (tree : FileTree) : IO FileTree := do
  try
    let entries ← (← IO.FS.realPath path).readDir
    entries.foldlM (fun tree entry => do
      let inner := names ++ [entry.fileName]
      match (← entry.path.symlinkMetadata).type with
      | .dir => addBelow entry.path.toString inner (tree.put inner .directory)
      | .file => return tree.put inner (.file "")
      | _ => return tree) tree
  catch _ => return tree

/-- Put an input into a tree, if it is a directory, with all that is below it. -/
def addInput (tree : FileTree) (path : String) : IO FileTree := do
  try
    if ← (← IO.FS.realPath path).isDir then
      let names := Path.names path
      match tree.makeDirectories names with
      | .ok tree => addBelow path names tree
      | .error tree => return tree
    else return tree
  catch _ => return tree

/-- The answer of the front end for a header. -/
def readAnswer (path : String) : IO ParseAnswer := do
  match ← readFile? (path ++ ".json") with
  | some text => return .ofText path text
  | none => return .error ⟨path, "there are no declarations in " ++ path ++ ".json", []⟩

/-- Write a file so that it is never seen in part. -/
def writeFile (path content : String) : IO Unit := do
  let parent := Path.parent path
  if parent ≠ "" then IO.FS.createDirAll parent
  let draft := Path.beside path FileTree.draftName
  IO.FS.writeFile draft content
  IO.FS.rename draft path

/-- Print what a run tells. -/
def tell (lines : List OutputLine) : IO Unit :=
  lines.forM fun line =>
    match line.stream with
    | .output => IO.println line.text
    | .errors => IO.eprintln line.text

/-- Print why settings are refused. -/
def refuse (error : ConfigError) : IO UInt32 := do
  error.lines.forM fun line => IO.eprintln line
  return 1

/-- Run with settings. -/
def run (config : Config) : IO UInt32 := do
  let tree ← config.inputs.foldlM addInput FileTree.empty
  let answers ← (config.inputFiles tree).mapM readAnswer
  let outcome := config.run (.ofAnswers answers) tree
  match outcome.result with
  | .error (.config error) => refuse error
  | .error error =>
    tell outcome.lines
    IO.eprintln ("Error: " ++ error.text)
    return 1
  | .ok report =>
    try
      writeFile config.output ((outcome.tree.read? config.output).getD "")
      tell outcome.lines
      if report.emitted = 0 then IO.eprintln "Warning: no declaration could be bound"
      return 0
    catch error =>
      IO.eprintln ("Error: " ++ error.toString)
      return 1

/-- Run the program with the arguments of its command line. -/
def start (arguments : List String) : IO UInt32 := do
  match CommandLine.parse arguments with
  | .error .displayHelp =>
    help.forM fun line => IO.println line
    return 0
  | .error .displayVersion =>
    IO.println (Generator.current.name ++ " " ++ Generator.current.version)
    return 0
  | .error error =>
    IO.eprintln ("error: " ++ refusal error)
    IO.eprintln CommandLine.usage
    return 2
  | .ok line =>
    let content ← match line.configFile with
      | some path => readFile? path
      | none => pure none
    match line.load fun _ => content with
    | .error error => refuse error
    | .ok config =>
      match config.validate with
      | .error error => refuse error
      | .ok () => run config

end Interop.Program

/-- The entry point. -/
def main (arguments : List String) : IO UInt32 :=
  Interop.Program.start arguments
