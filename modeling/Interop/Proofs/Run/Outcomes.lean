import Interop.Proofs.Files.Writing
import Interop.Run.Pipeline
import Mathlib.Data.List.Basic

/-!
# How a run ends

A run with a front end that knows its answers, when no input is a directory and the generated file
can be written. It ends in one of three ways. The settings are refused before anything is done; or
every input is handed to the front end once, and either none has a header and nothing is written,
or the bindings of all headers that there are get written.

What is said of front ends in general comes first: which answer counts of those that are
registered, how the calls of the front end add up (`Config.run_parseHeaders`), and what a run does
whose settings are accepted.
-/

namespace Interop

/-! ## Registered answers -/

namespace FrontEnd

variable {answers : List ParseAnswer} {path : String} {args : List String}
variable {answer : ParseAnswer} {parsed : TranslationUnit}

/-- An answer counts for a path: it is for the path, and no later answer is. -/
def Registers (answers : List ParseAnswer) (path : String) (answer : ParseAnswer) : Prop :=
  ∃ before after, answers = before ++ answer :: after ∧ Path.same answer.path path = true ∧
    ∀ later ∈ after, Path.same later.path path = false

theorem lookup_eq_some_iff : lookup answers path = some answer ↔ Registers answers path answer := by
  rw [lookup, List.find?_eq_some_iff_append]
  constructor
  · rintro ⟨hsame, after, before, hanswers, hlater⟩
    refine ⟨before.reverse, after.reverse, ?_, hsame, ?_⟩
    · have hreverse := congrArg List.reverse hanswers
      simpa using hreverse
    · intro later hmem
      have hdifferent := hlater later (List.mem_reverse.mp hmem)
      simpa using hdifferent
  · rintro ⟨before, after, rfl, hsame, hlater⟩
    refine ⟨hsame, after.reverse, before.reverse, by simp, ?_⟩
    intro later hmem
    have hdifferent := hlater later (List.mem_reverse.mp hmem)
    simpa using hdifferent

/-- The header that a front end answers for a path. -/
def unit? (frontEnd : FrontEnd) (args : List String) (path : String) : Option TranslationUnit :=
  (frontEnd.answer path args).toOption

/-- A front end with known answers has a header for a path if one is registered for it. -/
theorem unit?_ofAnswers_eq_some_iff :
    (ofAnswers answers).unit? args path = some parsed ↔ Registers answers path (.ok parsed) := by
  simp only [← lookup_eq_some_iff, unit?, ofAnswers]
  cases lookup answers path with
  | none => simp [Except.toOption]
  | some answer => cases answer <;> simp [Except.toOption]

end FrontEnd

/-! ## The report -/

namespace GenerationReport

/-- The report of a run: the inputs with and without a header, in their order, and how many of
the symbols are of each kind. -/
structure Tells (report : GenerationReport) (inputs : List String)
    (unit? : String → Option TranslationUnit) (symbols : List BindingSymbol) : Prop where
  parsedFiles : report.parsedFiles = inputs.filter fun input => (unit? input).isSome
  failedFiles : report.failedFiles = inputs.filter fun input => (unit? input).isNone
  structs : report.structs = symbols.countP (·.kind = .struct)
  typedefs : report.typedefs = symbols.countP (·.kind = .typedef)
  enums : report.enums = symbols.countP (·.kind = .enumeration)
  functions : report.functions = symbols.countP (·.kind = .function)
  emitted : report.emitted = symbols.length

end GenerationReport

/-- Every symbol is of one kind. -/
theorem GeneratedBindings.sum_count (bindings : GeneratedBindings) :
    bindings.count .struct + bindings.count .typedef + bindings.count .enumeration +
      bindings.count .function = bindings.symbols.length := by
  unfold count
  induction bindings.symbols with
  | nil => rfl
  | cons symbol symbols ih =>
      cases hkind : symbol.kind <;> simp [hkind] <;> omega

/-! ## Runs -/

namespace Config

variable {config : Config} {tree : FileTree} {frontEnd : FrontEnd}

theorem inputFiles_eq_inputs (h : ∀ input ∈ config.inputs, tree.isDirectory input = false) :
    config.inputFiles tree = config.inputs := by
  have hexpand : ∀ input ∈ config.inputs, expandInput tree input = [input] := by
    intro input hinput
    simp [expandInput, h input hinput]
  rw [inputFiles, List.flatMap_congr hexpand, List.flatMap_singleton']

/-- The headers as the front end answers them. -/
def headersFrom (config : Config) (frontEnd : FrontEnd) (files : List String) :
    List ParsedHeader :=
  files.map fun path => ⟨path, frontEnd.answer path config.frontEndArgs⟩

/-- The calls by which headers are handed to the front end. -/
def callsFor (config : Config) (files : List String) : List ParseCall :=
  files.map fun path => (path, config.frontEndArgs)

/-- One call for the first header, and then those for the headers after it. -/
theorem run_parseHeaders_cons (path : String) (files : List String) (frontEnd : FrontEnd) :
    (config.parseHeaders (path :: files)).run frontEnd =
      let rest := (config.parseHeaders files).run
        (frontEnd.receive [(path, config.frontEndArgs)])
      (⟨path, frontEnd.answer path config.frontEndArgs⟩ :: rest.1, rest.2) := by
  rw [parseHeaders, List.mapM_cons, bind_assoc, StateT.run_bind, FrontEnd.run_parse]
  rfl

/-- Every header is handed over once, in order. A call does not change what the front end answers
for the headers that are still to come. -/
theorem run_parseHeaders (files : List String) (frontEnd : FrontEnd) :
    (config.parseHeaders files).run frontEnd =
      (config.headersFrom frontEnd files, frontEnd.receive (config.callsFor files)) := by
  induction files generalizing frontEnd with
  | nil =>
      rw [callsFor, List.map_nil, FrontEnd.receive_nil]
      rfl
  | cons path files ih =>
      rw [run_parseHeaders_cons, ih, FrontEnd.receive_receive, callsFor, callsFor, List.map_cons,
        List.singleton_append]
      rfl

theorem units_headersFrom (files : List String) :
    (config.headersFrom frontEnd files).filterMap (·.unit?) =
      files.filterMap (frontEnd.unit? config.frontEndArgs) := by
  rw [headersFrom, List.filterMap_map]
  rfl

theorem tells_report (files : List String) (bindings : GeneratedBindings) :
    (config.report (config.headersFrom frontEnd files) bindings).Tells files
      (frontEnd.unit? config.frontEndArgs) bindings.symbols where
  parsedFiles := by
    simp [report, headersFrom, List.filter_map, Function.comp_def, ParsedHeader.isParsed,
      ParsedHeader.unit?, FrontEnd.unit?]
  failedFiles := by
    simp [report, headersFrom, List.filter_map, Function.comp_def, ParsedHeader.isParsed,
      ParsedHeader.unit?, FrontEnd.unit?]
  structs := rfl
  typedefs := rfl
  enums := rfl
  functions := rfl
  emitted := bindings.sum_count

theorem run_of_refused {error : ConfigError} (h : config.validate = .error error) :
    config.run frontEnd tree = ⟨.error (.config error), frontEnd, tree, []⟩ := by
  simp only [run, h]

section

variable (hvalid : config.validate = .ok ())
include hvalid

theorem calls_run : (config.run frontEnd tree).calls =
    frontEnd.received ++ config.callsFor (config.inputFiles tree) := by
  simp only [RunOutcome.calls, run, hvalid, run_parseHeaders, FrontEnd.received_receive]

/-- A run for which no input has a header writes nothing. -/
theorem run_of_no_unit
    (hnone : (config.inputFiles tree).filterMap (frontEnd.unit? config.frontEndArgs) = []) :
    (config.run frontEnd tree).result =
        .error (.noTranslationUnits (config.inputFiles tree).length) ∧
      (config.run frontEnd tree).tree = tree := by
  have hlength : (config.headersFrom frontEnd (config.inputFiles tree)).length =
      (config.inputFiles tree).length := List.length_map _
  rw [← units_headersFrom] at hnone
  simp only [run, hvalid, run_parseHeaders, runParsed, hnone, hlength, List.isEmpty_nil, if_true,
    and_self]

/-- A run for which some inputs have a header writes the bindings of these headers. -/
theorem run_of_units {units : List TranslationUnit} {written : FileTree}
    (hunits : (config.inputFiles tree).filterMap (frontEnd.unit? config.frontEndArgs) = units)
    (hsome : units ≠ [])
    (hwritten : tree.write config.output (config.bindingOptions.generate units).source =
      (.ok (), written)) :
    (config.run frontEnd tree).result =
        .ok (config.report (config.headersFrom frontEnd (config.inputFiles tree))
          (config.bindingOptions.generate units)) ∧
      (config.run frontEnd tree).tree = written := by
  have hempty : ¬ units.isEmpty = true := by simpa using hsome
  rw [← units_headersFrom] at hunits
  simp only [run, hvalid, run_parseHeaders, runParsed, hunits, if_neg hempty, writeBindings,
    hwritten, and_self]

end

/-! ## Runs with known answers -/

section

variable {answers : List ParseAnswer} {earlier : List ParseCall}

/-- The header that is registered for an input, if one is. -/
abbrev unitFor (config : Config) (answers : List ParseAnswer) : String → Option TranslationUnit :=
  (FrontEnd.ofAnswers answers).unit? config.frontEndArgs

/-- No input has a header among the answers. -/
def HasNoUnit (config : Config) (answers : List ParseAnswer) : Prop :=
  ∀ input ∈ config.inputs, ∀ parsed, ¬ FrontEnd.Registers answers input (.ok parsed)

/-- The bindings of the headers that the inputs have, in the order of the inputs. -/
def bindingsOf (config : Config) (answers : List ParseAnswer) : GeneratedBindings :=
  config.bindingOptions.generate (config.inputs.filterMap (config.unitFor answers))

theorem hasNoUnit_iff :
    config.HasNoUnit answers ↔ config.inputs.filterMap (config.unitFor answers) = [] := by
  rw [List.filterMap_eq_nil_iff]
  refine forall₂_congr fun input _ => ?_
  rw [Option.eq_none_iff_forall_ne_some]
  exact forall_congr' fun parsed => not_congr FrontEnd.unit?_ofAnswers_eq_some_iff.symm

/-- What becomes of a run over a tree: it is refused at once if the settings are, it parses every
input once if they are not, and it writes the bindings of all headers that the inputs have if they
have any. The front end has received some calls earlier. -/
structure Becomes (config : Config) (answers : List ParseAnswer) (earlier : List ParseCall)
    (tree : FileTree) (outcome : RunOutcome) : Prop where
  refused : ∀ error,
    outcome.result = .error (.config error) ↔ config.validate = .error error
  idle : config.validate ≠ .ok () → outcome.calls = earlier ∧ outcome.tree = tree
  calls : config.validate = .ok () →
    outcome.calls = earlier ++ config.inputs.map fun input => (input, config.frontEndArgs)
  fruitless : config.validate = .ok () →
    (outcome.result = .error (.noTranslationUnits config.inputs.length) ↔
      config.HasNoUnit answers)
  unwritten : config.validate = .ok () → config.HasNoUnit answers → outcome.tree = tree
  written : config.validate = .ok () → ¬ config.HasNoUnit answers →
    tree.Receives outcome.tree config.output (config.bindingsOf answers).source ∧
      ∃ report, outcome.result = .ok report ∧
        report.Tells config.inputs (config.unitFor answers) (config.bindingsOf answers).symbols

theorem becomes_of_refused {error : ConfigError} (h : config.validate = .error error) :
    config.Becomes answers earlier tree
      (config.run ((FrontEnd.ofAnswers answers).receive earlier) tree) := by
  have hinvalid : config.validate ≠ .ok () := by simp [h]
  rw [run_of_refused h]
  exact {
    refused := by simp [h]
    idle := fun _ => ⟨rfl, rfl⟩
    calls := fun hvalid => absurd hvalid hinvalid
    fruitless := fun hvalid => absurd hvalid hinvalid
    unwritten := fun hvalid => absurd hvalid hinvalid
    written := fun hvalid => absurd hvalid hinvalid }

theorem becomes_of_no_unit (hvalid : config.validate = .ok ())
    (hinputs : config.inputFiles tree = config.inputs) (hnone : config.HasNoUnit answers) :
    config.Becomes answers earlier tree
      (config.run ((FrontEnd.ofAnswers answers).receive earlier) tree) := by
  have hunits : (config.inputFiles tree).filterMap
      (((FrontEnd.ofAnswers answers).receive earlier).unit? config.frontEndArgs) = [] :=
    hinputs ▸ hasNoUnit_iff.mp hnone
  obtain ⟨hresult, htree⟩ := run_of_no_unit hvalid hunits
  rw [hinputs] at hresult
  exact {
    refused := by simp [hresult, hvalid]
    idle := fun hinvalid => absurd hvalid hinvalid
    calls := fun _ => hinputs ▸ calls_run hvalid
    fruitless := fun _ => ⟨fun _ => hnone, fun _ => hresult⟩
    unwritten := fun _ _ => htree
    written := fun _ hsome => absurd hnone hsome }

theorem becomes_of_units (hvalid : config.validate = .ok ())
    (hinputs : config.inputFiles tree = config.inputs) (hsome : ¬ config.HasNoUnit answers)
    (hwrite : (tree.write config.output (config.bindingsOf answers).source).1 = .ok ()) :
    config.Becomes answers earlier tree
      (config.run ((FrontEnd.ofAnswers answers).receive earlier) tree) := by
  have hunits : (config.inputFiles tree).filterMap
      (((FrontEnd.ofAnswers answers).receive earlier).unit? config.frontEndArgs) =
        config.inputs.filterMap (config.unitFor answers) := hinputs ▸ rfl
  obtain ⟨hresult, htree⟩ :=
    run_of_units hvalid hunits (mt hasNoUnit_iff.mpr hsome) (Prod.ext hwrite rfl)
  rw [hinputs] at hresult
  exact {
    refused := by simp [hresult, hvalid]
    idle := fun hinvalid => absurd hvalid hinvalid
    calls := fun _ => hinputs ▸ calls_run hvalid
    fruitless := fun _ => ⟨fun hnone => by simp [hresult] at hnone, fun hnone => absurd hnone hsome⟩
    unwritten := fun _ hnone => absurd hnone hsome
    written := fun _ _ =>
      ⟨htree ▸ FileTree.receives_write (Prod.ext hwrite rfl), _, hresult, tells_report _ _⟩ }

/-- A run with known answers, when no input is a directory and the generated file can be written
if the settings are accepted. -/
theorem run_becomes (hinputs : ∀ input ∈ config.inputs, tree.isDirectory input = false)
    (hwrites : config.validate = .ok () →
      ∀ content, (tree.write config.output content).1 = .ok ()) :
    config.Becomes answers earlier tree
      (config.run ((FrontEnd.ofAnswers answers).receive earlier) tree) := by
  have hfiles := inputFiles_eq_inputs hinputs
  cases hvalidate : config.validate with
  | error error => exact becomes_of_refused hvalidate
  | ok accepted =>
      by_cases hnone : config.HasNoUnit answers
      · exact becomes_of_no_unit hvalidate hfiles hnone
      · exact becomes_of_units hvalidate hfiles hnone (hwrites hvalidate _)

/-- Settings with an input that has a header, one that has none, and the first one again. -/
def repeatedInput : Config :=
  { inputs := ["a.h", "b.h", "./a.h", "a.h"], nameSpace := "Vendor", output := "Out.cs",
    library := "vendor" }

/-- A header without declarations, which replaces an earlier failure. -/
def lateAnswers : List ParseAnswer :=
  [.error ⟨"a.h", "syntax error", []⟩, .ok (.ofDeclarations "a.h" [])]

/-- The late header is found for two of the inputs, `./a.h` being another path, and its bindings are
written. The front end was called for another header before. -/
theorem run_becomes_repeatedInput :
    repeatedInput.validate = .ok () ∧ ¬ repeatedInput.HasNoUnit lateAnswers ∧
      repeatedInput.Becomes lateAnswers [("c.h", [])] ∅
        (repeatedInput.run ((FrontEnd.ofAnswers lateAnswers).receive [("c.h", [])]) ∅) := by
  refine ⟨?_, ?_, run_becomes ?_ ?_⟩
  · rw [validate_eq_ok_iff]
    decide +kernel
  · rw [hasNoUnit_iff, ← List.isEmpty_iff]
    decide +kernel
  · decide +kernel
  · intro _ content
    rfl

end

end Config

end Interop
