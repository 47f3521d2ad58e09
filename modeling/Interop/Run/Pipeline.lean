import Interop.Config.Validation
import Interop.Report.Progress
import Interop.Report.Summary
import Interop.Run.Error
import Interop.Run.FrontEnd

/-!
# A run from headers to the generated file

The settings are checked, every header is handed to the front end, bindings are generated from the
headers that could be parsed, and the generated file is written. A header that cannot be parsed is
told and left out, and so is a declaration that has no binding; the run ends early only when the
settings are refused, when no header could be parsed, or when the file cannot be written.

Everything that a run does is in its `RunOutcome`: the front end with the calls that it received,
the directory tree that the run leaves, and what it tells.
-/

namespace Interop

/-- A header together with what the front end answers for it. -/
structure ParsedHeader where
  path : String
  answer : ParseAnswer

namespace ParsedHeader

variable (header : ParsedHeader)

/-- The declarations of the header. -/
def unit? : Option TranslationUnit := header.answer.toOption

/-- Whether the header could be parsed. -/
def isParsed : Bool := header.unit?.isSome

/-- What is told of the answer. -/
def lines (logger : Logger) : List OutputLine :=
  match header.answer with
  | .ok parsed => parsed.diagnostics.flatMap (logger.diagnostic header.path)
  | .error failure =>
    failure.diagnostics.flatMap (logger.diagnostic failure.path) ++
      logger.log .error failure.text

end ParsedHeader

/-- What a run does. -/
structure RunOutcome where
  result : Except RunError GenerationReport
  /-- The front end after the run. -/
  frontEnd : FrontEnd
  /-- The files and directories after the run. -/
  tree : FileTree
  /-- What the run tells, in order. -/
  lines : List OutputLine

/-- The calls that the front end has received after a run. -/
def RunOutcome.calls (outcome : RunOutcome) : List ParseCall := outcome.frontEnd.received

namespace GeneratedBindings

variable (bindings : GeneratedBindings)

/-- What is told of the declarations that are bound and of those that are not. -/
def lines (logger : Logger) : List OutputLine :=
  (bindings.symbols.flatMap fun symbol =>
    logger.log .verbose ("  " ++ symbol.kind.label ++ " " ++ symbol.nativeName ++ " -> " ++
      symbol.emittedName)) ++
  (bindings.skipped.flatMap fun entry =>
    logger.log .warning ("Skipped " ++ entry.kind.label ++ " " ++ entry.name ++ ": " ++
      entry.reason))

end GeneratedBindings

namespace Config

variable (config : Config)

/-- How much a run tells. -/
def logger : Logger := ⟨config.isVerbose, config.isDebug⟩

/-- The progress of a run in a step. -/
def progressIn (step : RunStep) : Progress := ⟨config.logger, some step⟩

/-- Hand headers to the front end, in order. -/
def parseHeaders (files : List String) : StateM FrontEnd (List ParsedHeader) :=
  files.mapM fun path => return ⟨path, ← FrontEnd.parse path config.frontEndArgs⟩

/-- What is told while headers are parsed. -/
def parseLines (headers : List ParsedHeader) : List OutputLine :=
  let progress := config.progressIn .parse
  progress.begun .parse ++
    config.logger.log .debug ("Front-end arguments: " ++ " ".intercalate config.frontEndArgs) ++
    headers.flatMap fun header =>
      progress.detail ("Parsing " ++ header.path) ++ header.lines config.logger

/-- The report of a run over some headers. -/
def report (headers : List ParsedHeader) (bindings : GeneratedBindings) : GenerationReport where
  outputPath := config.output
  parsedFiles := (headers.filter (·.isParsed)).map (·.path)
  failedFiles := (headers.filter (!·.isParsed)).map (·.path)
  structs := bindings.count .struct
  typedefs := bindings.count .typedef
  enums := bindings.count .enumeration
  functions := bindings.count .function
  skipped := bindings.skipped

/-- What is told while bindings are generated. -/
def generateLines (bindings : GeneratedBindings) (report : GenerationReport) :
    List OutputLine :=
  let progress := config.progressIn .generate
  progress.begun .generate ++ bindings.lines config.logger ++
    progress.done (some (toString report.emitted ++ " declaration(s)"))

/-- Write the generated file. -/
def writeBindings (tree : FileTree) (source : String) (report : GenerationReport) :
    Except RunError GenerationReport × FileTree × List OutputLine :=
  let progress := config.progressIn .write
  let begun := progress.begun .write
  match tree.write config.output source with
  | (.ok (), tree) =>
    (.ok report, tree,
      begun ++ progress.done none ++ Progress.finished report.summaryLine ++
        report.warnings config.logger)
  | (.error (.directory path), tree) =>
    (.error (.io (WriteError.directory path).text), tree, begun)
  | (.error (.file path), tree) =>
    let reason := (WriteError.file path).text
    (.error (.io reason), tree, begun ++ progress.failed reason)

/-- Generate bindings from parsed headers and write them. -/
def runParsed (tree : FileTree) (headers : List ParsedHeader) :
    Except RunError GenerationReport × FileTree × List OutputLine :=
  let progress := config.progressIn .parse
  let units := headers.filterMap (·.unit?)
  if units.isEmpty then
    (.error (.noTranslationUnits headers.length), tree,
      progress.failed "no input file could be parsed")
  else
    let bindings := config.bindingOptions.generate units
    let report := config.report headers bindings
    let (result, tree, lines) := config.writeBindings tree bindings.source report
    (result, tree,
      progress.done (some (toString units.length ++ " file(s)")) ++
        config.generateLines bindings report ++ lines)

/-- Run with a front end, among the files of a directory tree. -/
def run (frontEnd : FrontEnd) (tree : FileTree) : RunOutcome :=
  match config.validate with
  | .error error => ⟨.error (.config error), frontEnd, tree, []⟩
  | .ok () =>
    let (headers, frontEnd) := (config.parseHeaders (config.inputFiles tree)).run frontEnd
    let (result, tree, lines) := config.runParsed tree headers
    ⟨result, frontEnd, tree, config.parseLines headers ++ lines⟩

end Config

end Interop
