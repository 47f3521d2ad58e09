import Interop.Proofs.Binding.Answers
import Interop.Proofs.Binding.References
import Interop.Proofs.Binding.Settling
import Interop.Proofs.Lowering.Omission

/-!
# Functions and the other declarations

Functions come last in a run, and what the run notes of them is read by functions only. Two
statements make this precise.

A function that is kept out of the bindings, by the user's wish, by its linkage or because it
stands in another header, might as well be missing from the headers
(`BindingOptions.generate_without_leavesOut`).

The declarations that are not functions are bound and reported the same way whatever functions the
headers declare and whatever the user decides about functions
(`BindingOptions.types_ignore_functions`). Here two runs are compared declaration by declaration;
they agree on all that concerns types (`BindingRun.AgreeOnTypes`), a function of either of them
does not touch that part, and any other declaration changes it in both runs alike.
-/

namespace Interop

/-! ## Declarations that are functions -/

theorem SymbolKind.scope_eq_types_iff {kind : SymbolKind} :
    kind.scope = .types ↔ kind ≠ .function := by
  cases kind <;> simp [scope]

namespace Declaration

variable {declaration : Declaration} {kind : SymbolKind}

theorem inMainFile_of_bindingKind? (h : declaration.bindingKind? = some kind) :
    declaration.location.inMainFile = true := by
  rw [bindingKind?] at h
  split at h
  next hmain => exact hmain
  next => cases h

/-- Functions, and nothing else, are bound as functions. -/
theorem kind_eq_function_iff (h : declaration.bindingKind? = some kind) :
    declaration.kind = .function ↔ kind = .function := by
  rw [bindingKind?, if_pos (inMainFile_of_bindingKind? h)] at h
  split at h <;> grind

end Declaration

namespace TranslationUnit

variable {units : List TranslationUnit} {kind : SymbolKind} {declaration : Declaration}

/-- The work that is left without functions. -/
theorem filter_isFunction_agenda (units : List TranslationUnit) :
    (agenda units).filter (fun work => !work.2.isFunction) =
      (agenda units).filter fun work => work.1.scope = .types := by
  refine List.filter_congr fun (kind, declaration) hwork => ?_
  have hiff := Declaration.kind_eq_function_iff (bindingKind?_of_mem_agenda hwork)
  by_cases hfunction : kind = .function
  · have hdeclares := hiff.mpr hfunction
    simp [Declaration.isFunction, hdeclares, hfunction, SymbolKind.scope]
  · have hdeclares : declaration.kind ≠ .function := fun h => hfunction (hiff.mp h)
    simp [Declaration.isFunction, hdeclares, SymbolKind.scope_eq_types_iff, hfunction]

end TranslationUnit

/-! ## Runs over headers without some functions -/

theorem Registry.process_without {drops : Declaration → Bool}
    (only : Declaration.OnlyFunctions drops) (registry : Registry) (options : BindingOptions)
    (kind : SymbolKind) (declaration : Declaration) :
    registry.process options kind (declaration.without drops) =
      registry.process options kind declaration := by
  have hbound : registry.isBound kind (declaration.without drops) =
      registry.isBound kind declaration := by
    rw [isBound, isBound, Declaration.nativeName?_without]
  simp only [process, hbound, Mapper.lower_without only]

namespace BindingRun

variable {options : BindingOptions} {run : BindingRun} {drops : Declaration → Bool}
  {work : List (SymbolKind × Declaration)}

/-- Functions below a declaration do not matter to a step. -/
theorem step_without (only : Declaration.OnlyFunctions drops) (kind : SymbolKind)
    (declaration : Declaration) :
    run.step options kind (declaration.without drops) = run.step options kind declaration := by
  have hskipped : (declaration.without drops).skipped kind = declaration.skipped kind := by
    funext error
    rw [Declaration.skipped, Declaration.skipped, Declaration.nativeName?_without]
  rw [step, step, run.registry.process_without only, hskipped]

theorem goThrough_map_without (only : Declaration.OnlyFunctions drops) :
    run.goThrough options (work.map fun item => (item.1, item.2.without drops)) =
      run.goThrough options work := by
  induction work generalizing run with
  | nil => rfl
  | cons item work ih =>
      obtain ⟨kind, declaration⟩ := item
      rw [List.map_cons, goThrough_cons, goThrough_cons, step_without only, ih]

/-- Work that changes no run may be passed over. -/
theorem goThrough_filter {keep : SymbolKind × Declaration → Bool}
    (idle : ∀ kind declaration, (kind, declaration) ∈ work → keep (kind, declaration) = false →
      ∀ run : BindingRun, run.step options kind declaration = run) :
    run.goThrough options (work.filter keep) = run.goThrough options work := by
  induction work generalizing run with
  | nil => rfl
  | cons item work ih =>
      obtain ⟨kind, declaration⟩ := item
      have hrest : ∀ run : BindingRun,
          run.goThrough options (work.filter keep) = run.goThrough options work :=
        fun _ => ih fun other next hnext => idle other next (List.mem_cons_of_mem _ hnext)
      by_cases hkeep : keep (kind, declaration) = true
      · rw [List.filter_cons_of_pos hkeep, goThrough_cons, goThrough_cons, hrest]
      · rw [List.filter_cons_of_neg hkeep, goThrough_cons, hrest,
          idle kind declaration List.mem_cons_self ((Bool.not_eq_true _).mp hkeep)]

end BindingRun

/-- A run over headers without some functions comes to the work that is left. -/
theorem Registry.run_without {drops : Declaration → Bool} (only : Declaration.OnlyFunctions drops)
    (registry : Registry) (options : BindingOptions) (units : List TranslationUnit) :
    registry.run options (units.map (TranslationUnit.without drops)) =
      (BindingRun.start registry).goThrough options
        ((TranslationUnit.agenda units).filter fun work => !drops work.2) := by
  rw [← BindingRun.goThrough_map_without only, ← TranslationUnit.agenda_without only]
  rfl

/-! ## Functions kept out of the bindings -/

namespace BindingOptions

variable (options : BindingOptions)

/-- Whether a node is a function that is kept out of the bindings. -/
def leavesOut (declaration : Declaration) : Bool :=
  declaration.kind = .function &&
    (options.naming.isExcluded declaration.spelling || declaration.linkage = .internal ||
      !declaration.location.inMainFile)

theorem onlyFunctions_leavesOut : Declaration.OnlyFunctions options.leavesOut := by
  intro declaration hleft
  exact of_decide_eq_true (Bool.and_eq_true_iff.mp hleft).1

variable {options}

/-- A run comes to functions that are kept out only to pass over them. -/
theorem step_of_leavesOut {units : List TranslationUnit} {kind : SymbolKind}
    {declaration : Declaration} (hwork : (kind, declaration) ∈ TranslationUnit.agenda units)
    (hleft : options.leavesOut declaration = true) (run : BindingRun) :
    run.step options kind declaration = run := by
  have hbinding := TranslationUnit.bindingKind?_of_mem_agenda hwork
  have hmain := Declaration.inMainFile_of_bindingKind? hbinding
  have hfunction := (Declaration.kind_eq_function_iff hbinding).mp
    (options.onlyFunctions_leavesOut declaration hleft)
  subst hfunction
  refine BindingRun.step_of_process_eq_none (Registry.process_eq_none_iff.mpr (.inr ?_))
  simp only [leavesOut, hmain, Bool.not_true, Bool.or_false, Bool.and_eq_true, Bool.or_eq_true,
    decide_eq_true_eq] at hleft
  cases hleft.2 with
  | inl hexcluded => exact .excluded hexcluded
  | inr hinternal => exact .internal hinternal

theorem run_without_leavesOut (registry : Registry) (units : List TranslationUnit) :
    registry.run options (units.map (TranslationUnit.without options.leavesOut)) =
      registry.run options units := by
  rw [registry.run_without options.onlyFunctions_leavesOut]
  refine BindingRun.goThrough_filter fun kind declaration hwork hdropped => ?_
  exact step_of_leavesOut hwork (by simpa using hdropped)

theorem discover_without_leavesOut (units : List TranslationUnit) :
    options.discover (units.map (TranslationUnit.without options.leavesOut)) =
      options.discover units := by
  funext index
  rw [discover, discover, run_without_leavesOut]

/-- Functions that are excluded, internal or declared in another header might as well be missing
from the headers, and without them no such function is left below any root. -/
theorem generate_without_leavesOut (options : BindingOptions) (units : List TranslationUnit) :
    options.generate (units.map (TranslationUnit.without options.leavesOut)) =
        options.generate units ∧
      ∀ parsed ∈ units, ∀ node ∈ Declaration.allNodes
        (parsed.without options.leavesOut).root.children, options.leavesOut node = false := by
  constructor
  · have hindex : options.buildIndex (units.map (TranslationUnit.without options.leavesOut)) =
        options.buildIndex units := by
      rw [buildIndex, buildIndex, settle_eq_iterate, settle_eq_iterate, discover_without_leavesOut]
    rw [generate, generate, finalRun, finalRun, hindex, run_without_leavesOut]
  · intro parsed _ node hnode
    refine Declaration.not_drops_of_mem_allNodes_without (fun declaration => ?_) parsed.root node
      hnode
    rw [Declaration.without_eq]
    rfl

end BindingOptions

/-! ## What concerns types -/

/-- Registries that agree on all that is read when types are bound. -/
structure Registry.AgreeOnTypes (first second : Registry) : Prop where
  index_eq : first.index = second.index
  discovered_eq : first.discovered = second.discovered
  types_eq : first.types = second.types
  isEmitted_eq : ∀ kind native, kind ≠ .function →
    first.isEmitted kind native = second.isEmitted kind native

namespace Registry.AgreeOnTypes

variable {first second third : Registry} {kind : SymbolKind}

theorem refl (registry : Registry) : registry.AgreeOnTypes registry :=
  ⟨rfl, rfl, rfl, fun _ _ _ => rfl⟩

theorem trans (h : first.AgreeOnTypes second) (h' : second.AgreeOnTypes third) :
    first.AgreeOnTypes third :=
  ⟨h.index_eq.trans h'.index_eq, h.discovered_eq.trans h'.discovered_eq,
    h.types_eq.trans h'.types_eq,
    fun kind native hkind => (h.isEmitted_eq kind native hkind).trans
      (h'.isEmitted_eq kind native hkind)⟩

theorem symm (h : first.AgreeOnTypes second) : second.AgreeOnTypes first :=
  ⟨h.index_eq.symm, h.discovered_eq.symm, h.types_eq.symm,
    fun kind native hkind => (h.isEmitted_eq kind native hkind).symm⟩

theorem claim_types (h : first.AgreeOnTypes second) (names : List String) :
    (first.claim .types names).AgreeOnTypes (second.claim .types names) :=
  ⟨h.index_eq, h.discovered_eq, congrArg (NameSet.insertAll · names) h.types_eq, h.isEmitted_eq⟩

theorem discover (h : first.AgreeOnTypes second) (change : SymbolIndex → SymbolIndex) :
    (first.discover change).AgreeOnTypes (second.discover change) :=
  ⟨h.index_eq, congrArg change h.discovered_eq, h.types_eq, h.isEmitted_eq⟩

theorem markEmitted (h : first.AgreeOnTypes second) (kind : SymbolKind) (native : String) :
    (first.markEmitted kind native).AgreeOnTypes (second.markEmitted kind native) where
  index_eq := h.index_eq
  discovered_eq := h.discovered_eq
  types_eq := h.types_eq
  isEmitted_eq other name hother := by
    rw [Bool.eq_iff_iff, isEmitted_markEmitted, isEmitted_markEmitted, h.isEmitted_eq _ _ hother]

theorem markBody (h : first.AgreeOnTypes second) (native : String) (body : SymbolBody) :
    (first.markBody native body).AgreeOnTypes (second.markBody native body) := by
  cases body with
  | record => exact h.discover fun index => { index with records := index.records.insert native }
  | enumeration => exact h.discover fun index => { index with enums := index.enums.insert native }
  | wrapper | delegate =>
      exact h.discover fun index => { index with aliases := index.aliases.insert native }
  | function => exact h

/-- Binding a declaration that is no function keeps the agreement. -/
theorem bind (h : first.AgreeOnTypes second) (hkind : kind ≠ .function) (group : SymbolGroup)
    (blittable : Bool) :
    (first.bind kind group blittable).AgreeOnTypes (second.bind kind group blittable) := by
  have hbound := ((h.claim_types group.declaredNames).markEmitted kind
    group.main.nativeName).markBody group.main.nativeName group.main.body
  rw [Registry.bind, Registry.bind, SymbolKind.scope_of_ne_function hkind]
  split
  · exact hbound.discover _
  · exact hbound

/-- Binding a function touches nothing of what concerns types. -/
theorem bind_function {mapper : Mapper} {naming : NamingPolicy} {declaration : Declaration}
    {group : SymbolGroup} (lowers : mapper.Lowers naming .function declaration group)
    (registry : Registry) :
    (registry.bind .function group (mapper.holdsNoReference group)).AgreeOnTypes registry := by
  cases lowers with
  | function =>
      refine ⟨rfl, rfl, rfl, fun kind native hkind => ?_⟩
      rw [Bool.eq_iff_iff, isEmitted_bind]
      exact or_iff_right fun hfunction => hkind hfunction.1

end Registry.AgreeOnTypes

/-- How declarations that are no functions are lowered does not depend on the wishes about function
names. -/
theorem Mapper.lower_naming {mapper : Mapper} {kind : SymbolKind} (hkind : kind ≠ .function)
    (naming other : NamingPolicy) (declaration : Declaration) :
    mapper.lower naming kind declaration = mapper.lower other kind declaration := by
  cases kind with
  | struct | typedef | enumeration => rfl
  | function => exact absurd rfl hkind

/-- Two registries process a declaration alike: for the same reason they refuse it, both have
nothing to bind, or they bind the same group. -/
inductive Registry.ProcessAlike (options others : BindingOptions) (first second : Registry)
    (kind : SymbolKind) (declaration : Declaration) : Prop
  | fails {error : MappingError} (hfirst : first.process options kind declaration = .error error)
      (hsecond : second.process others kind declaration = .error error)
  | passes (hfirst : first.process options kind declaration = .ok none)
      (hsecond : second.process others kind declaration = .ok none)
  | binds {group : SymbolGroup} {blittable : Bool}
      (hfirst : first.process options kind declaration =
        .ok (some (group, first.bind kind group blittable)))
      (hsecond : second.process others kind declaration =
        .ok (some (group, second.bind kind group blittable)))

namespace Registry.AgreeOnTypes

variable {options others : BindingOptions} {first second : Registry} {kind : SymbolKind}

theorem processAlike (h : first.AgreeOnTypes second)
    (same : options.marshalStrings = others.marshalStrings) (hkind : kind ≠ .function)
    (declaration : Declaration) :
    ProcessAlike options others first second kind declaration := by
  have hmapper : others.mapper second.index = options.mapper first.index := by
    rw [BindingOptions.mapper, BindingOptions.mapper, same, h.index_eq]
  have hbound : second.isBound kind declaration = first.isBound kind declaration := by
    rw [isBound, isBound]
    split
    next native _ => exact (h.isEmitted_eq kind native hkind).symm
    next => rfl
  have hconflict : second.firstConflict? kind.scope = first.firstConflict? kind.scope := by
    funext names
    rw [firstConflict?, firstConflict?, SymbolKind.scope_of_ne_function hkind, claimed, claimed,
      h.types_eq]
  cases hfirst : first.isBound kind declaration with
  | true => exact .passes (process_of_isBound hfirst) (process_of_isBound (hbound.trans hfirst))
  | false =>
      have hprocess : first.process options kind declaration = _ := process_of_not_isBound hfirst
      have hprocess' : second.process others kind declaration = _ :=
        process_of_not_isBound (hbound.trans hfirst)
      rw [hmapper, Mapper.lower_naming hkind others.naming options.naming, hconflict] at hprocess'
      cases hlower : (options.mapper first.index).lower options.naming kind declaration with
      | error error =>
          rw [hlower] at hprocess hprocess'
          exact .fails hprocess hprocess'
      | ok answer =>
          rw [hlower] at hprocess hprocess'
          cases answer with
          | none => exact .passes hprocess hprocess'
          | some group =>
              cases hnames : first.firstConflict? kind.scope group.declaredNames with
              | some name =>
                  simp only [hnames] at hprocess hprocess'
                  exact .fails hprocess hprocess'
              | none =>
                  simp only [hnames] at hprocess hprocess'
                  exact .binds hprocess hprocess'

end Registry.AgreeOnTypes

namespace BindingRun

variable {options others : BindingOptions} {first second third run : BindingRun}
  {kind : SymbolKind} {declaration : Declaration} {entry : SkippedSymbol}

/-- Runs that agree on all that concerns types. -/
structure AgreeOnTypes (first second : BindingRun) : Prop where
  registry : first.registry.AgreeOnTypes second.registry
  groups_eq : first.groups.filter (fun group => group.main.kind.scope = .types) =
    second.groups.filter fun group => group.main.kind.scope = .types
  skipped_eq : first.skipped.filter (fun entry => entry.kind ≠ .function) =
    second.skipped.filter fun entry => entry.kind ≠ .function

namespace AgreeOnTypes

theorem refl (run : BindingRun) : run.AgreeOnTypes run := ⟨.refl _, rfl, rfl⟩

theorem trans (h : first.AgreeOnTypes second) (h' : second.AgreeOnTypes third) :
    first.AgreeOnTypes third :=
  ⟨h.registry.trans h'.registry, h.groups_eq.trans h'.groups_eq,
    h.skipped_eq.trans h'.skipped_eq⟩

theorem symm (h : first.AgreeOnTypes second) : second.AgreeOnTypes first :=
  ⟨h.registry.symm, h.groups_eq.symm, h.skipped_eq.symm⟩

/-- Reporting a function touches nothing of what concerns types. -/
theorem skip_function (hentry : entry.kind = .function) (run : BindingRun) :
    (run.skip entry).AgreeOnTypes run := by
  rw [skip]
  split
  next => exact .refl run
  next =>
    refine ⟨.refl _, rfl, ?_⟩
    simp [List.filter_append, hentry]

theorem skip (h : first.AgreeOnTypes second) (hentry : entry.kind ≠ .function) :
    (first.skip entry).AgreeOnTypes (second.skip entry) := by
  have hmem : entry ∈ first.skipped ↔ entry ∈ second.skipped := by
    have hfiltered := congrArg (entry ∈ ·) h.skipped_eq
    simpa [List.mem_filter, hentry] using hfiltered
  refine ⟨?_, ?_, ?_⟩
  · rw [registry_skip, registry_skip]
    exact h.registry
  · rw [groups_skip, groups_skip]
    exact h.groups_eq
  · rw [BindingRun.skip, BindingRun.skip]
    by_cases hreported : entry ∈ second.skipped
    · rw [if_pos (hmem.mpr hreported), if_pos hreported]
      exact h.skipped_eq
    · rw [if_neg (fun hfirst => hreported (hmem.mp hfirst)), if_neg hreported]
      simp only [List.filter_append, h.skipped_eq]

/-- Going on with a function touches nothing of what concerns types. -/
theorem step_function (run : BindingRun) (options : BindingOptions) (declaration : Declaration) :
    (run.step options .function declaration).AgreeOnTypes run := by
  cases hprocess : run.registry.process options .function declaration with
  | error error =>
      rw [step_of_process_eq_error hprocess]
      exact skip_function rfl run
  | ok answer =>
      cases answer with
      | none =>
          rw [step_of_process_eq_none hprocess]
          exact .refl run
      | some bound =>
          obtain ⟨group, after⟩ := bound
          rw [step_of_process_eq_some hprocess]
          obtain ⟨-, lowers, -, rfl⟩ := Registry.process_eq_some_iff.mp hprocess
          refine ⟨.bind_function lowers run.registry, ?_, rfl⟩
          simp [List.filter_append, lowers.kind_main, SymbolKind.scope]

/-- Going on with any other declaration keeps the agreement. -/
theorem step (h : first.AgreeOnTypes second) (same : options.marshalStrings = others.marshalStrings)
    (hkind : kind ≠ .function) (declaration : Declaration) :
    (first.step options kind declaration).AgreeOnTypes
      (second.step others kind declaration) := by
  cases h.registry.processAlike same hkind declaration with
  | fails hfirst hsecond =>
      rw [step_of_process_eq_error hfirst, step_of_process_eq_error hsecond]
      exact h.skip hkind
  | passes hfirst hsecond =>
      rw [step_of_process_eq_none hfirst, step_of_process_eq_none hsecond]
      exact h
  | binds hfirst hsecond =>
      rw [step_of_process_eq_some hfirst, step_of_process_eq_some hsecond]
      refine ⟨h.registry.bind hkind _ _, ?_, h.skipped_eq⟩
      simp only [List.filter_append, h.groups_eq]

/-- Two runs agree on types to the end when the second one leaves out the functions. -/
theorem goThrough (h : first.AgreeOnTypes second)
    (same : options.marshalStrings = others.marshalStrings)
    (work : List (SymbolKind × Declaration)) :
    (first.goThrough options work).AgreeOnTypes
      (second.goThrough others (work.filter fun item => item.1.scope = .types)) := by
  induction work generalizing first second with
  | nil => exact h
  | cons item work ih =>
      obtain ⟨kind, declaration⟩ := item
      rw [goThrough_cons]
      by_cases hkind : kind = .function
      · subst hkind
        exact ih ((step_function first options declaration).trans h)
      · rw [List.filter_cons_of_pos (by simp [SymbolKind.scope_eq_types_iff, hkind]),
          goThrough_cons]
        exact ih (h.step same hkind declaration)

end AgreeOnTypes

end BindingRun

/-! ## Headers with fewer functions -/

namespace BindingOptions

open TranslationUnit

variable {first second options : BindingOptions} {units kept : List TranslationUnit}

/-- A run over headers agrees on types with one over the headers without functions, under any
settings that treat text alike. -/
theorem run_agreeOnTypes (same : first.marshalStrings = second.marshalStrings)
    (units : List TranslationUnit) (index : SymbolIndex) :
    ((first.registry index).run first units).AgreeOnTypes
      ((second.registry index).run second (units.map (without Declaration.isFunction))) := by
  rw [Registry.run_without Declaration.onlyFunctions_isFunction, filter_isFunction_agenda]
  have hstart : (BindingRun.start (first.registry index)).AgreeOnTypes
      (.start (second.registry index)) := ⟨⟨rfl, rfl, rfl, fun _ _ _ => rfl⟩, rfl, rfl⟩
  exact hstart.goThrough same (agenda units)

/-- Under settings that treat text alike, runs over headers with and without some functions agree on
types. -/
theorem run_agreeOnTypes_of_omits (same : first.marshalStrings = second.marshalStrings)
    (omits : List.Forall₂ OmitsFunctions units kept) (index : SymbolIndex) :
    ((second.registry index).run second kept).AgreeOnTypes
      ((first.registry index).run first units) := by
  have hleft : kept.map (without Declaration.isFunction) =
      units.map (without Declaration.isFunction) := by
    induction omits with
    | nil => rfl
    | cons head _ ih => rw [List.map_cons, List.map_cons, head.without_eq, ih]
  have hkept := run_agreeOnTypes (rfl : second.marshalStrings = second.marshalStrings) kept index
  rw [hleft] at hkept
  exact hkept.trans (run_agreeOnTypes same units index).symm

theorem discover_of_omits (same : first.marshalStrings = second.marshalStrings)
    (omits : List.Forall₂ OmitsFunctions units kept) :
    second.discover kept = first.discover units :=
  funext fun index => (run_agreeOnTypes_of_omits same omits index).registry.discovered_eq

/-- Structures, typedefs and enumerations are bound and reported alike whatever functions are
missing from the headers and whatever the settings are, as long as text is treated alike. -/
theorem types_ignore_functions (same : first.marshalStrings = second.marshalStrings)
    (omits : List.Forall₂ OmitsFunctions units kept) :
    second.buildIndex kept = first.buildIndex units ∧
      (second.generate kept).symbols.filter (fun symbol => symbol.kind ≠ .function) =
        (first.generate units).symbols.filter (fun symbol => symbol.kind ≠ .function) ∧
      (second.generate kept).skipped.filter (fun entry => entry.kind ≠ .function) =
        (first.generate units).skipped.filter fun entry => entry.kind ≠ .function := by
  have hindex : second.buildIndex kept = first.buildIndex units := by
    rw [buildIndex, buildIndex, settle_eq_iterate, settle_eq_iterate, discover_of_omits same omits]
  have hagree : (second.finalRun kept).AgreeOnTypes (first.finalRun units) := by
    rw [finalRun, finalRun, hindex]
    exact run_agreeOnTypes_of_omits same omits (first.buildIndex units)
  have hfirst := (first.accounts_run units (first.buildIndex units)).filter_symbols .types
  have hsecond := (second.accounts_run kept (second.buildIndex kept)).filter_symbols .types
  refine ⟨hindex, ?_, hagree.skipped_eq⟩
  simp only [← SymbolKind.scope_eq_types_iff]
  exact hsecond.trans ((congrArg (List.flatMap (·.symbols)) hagree.groups_eq).trans hfirst.symm)

/-- Functions among other declarations: inside a structure, before a typedef that wants the same
name in the other scope, and by itself. -/
def mixed : List TranslationUnit :=
  [.ofDeclarations "mixed.h" [
    .ofStruct "Point" [.ofField "x" .int, .ofFunction "point_inner" []],
    { Declaration.ofType .linkageBlock "" .void with children := [
      .ofFunction "point_move" [("handler", .callback)],
      .ofAlias "point_move_handler" .callback] },
    .ofStruct "Flags" [{ Declaration.ofField "bits" .int with bitWidth := some 3 }],
    .ofFunction "point_stop" []]]

/-- Other wishes about functions; the class that holds them is called like a structure. -/
def sampleOther : BindingOptions :=
  ⟨"Other", "other", "Point", true, .ofSettings (some "point_") ["point_stop"]⟩

theorem types_ignore_functions_mixed :
    let fewer := mixed.map
      (without fun declaration => declaration.isFunction && declaration.spelling ≠ "point_stop")
    (sample.generate mixed).symbols.map (·.emittedName) =
        ["Point", "point_move_handler", "point_inner", "point_move", "point_stop"] ∧
      (sampleOther.generate fewer).symbols.map (·.emittedName) = ["Point", "point_move_handler"] ∧
      (sample.generate mixed).skipped.map (·.name) = ["Flags"] ∧
      sampleOther.buildIndex fewer = sample.buildIndex mixed ∧
      (sampleOther.generate fewer).symbols.filter (fun symbol => symbol.kind ≠ .function) =
        (sample.generate mixed).symbols.filter (fun symbol => symbol.kind ≠ .function) ∧
      (sampleOther.generate fewer).skipped.filter (fun entry => entry.kind ≠ .function) =
        (sample.generate mixed).skipped.filter fun entry => entry.kind ≠ .function := by
  intro fewer
  have only : Declaration.OnlyFunctions fun declaration =>
      declaration.isFunction && declaration.spelling ≠ "point_stop" := fun declaration hdrops =>
    Declaration.onlyFunctions_isFunction declaration (Bool.and_eq_true_iff.mp hdrops).1
  exact ⟨by decide +kernel, by decide +kernel, by decide +kernel,
    types_ignore_functions rfl (.cons (omitsFunctions_without only _) .nil)⟩

end BindingOptions

end Interop
