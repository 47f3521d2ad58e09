import Interop.Proofs.Binding.Answers
import Interop.Proofs.Binding.References

/-!
# Declarations that fail leave no trace

A run keeps one state and changes it as it goes. Here the processing of a declaration is written
out as commands on that state (`Registry.processInPlace`), where whatever was changed before a
failure would stay changed. It does the same as `Registry.process`, and a declaration that fails or
has nothing to bind leaves the state just as it was: names are claimed only after every check has
passed. So a run comes to the same symbols and the same state when it goes only through the
declarations that yield symbols (`Registry.failures_leave_no_trace`).
-/

namespace Interop.Registry

/-! ## Commands -/

/-- A computation on the state of a run. It may fail, and then the state is what it has made of it
so far. -/
abbrev Action (α : Type) : Type := ExceptT MappingError (StateM Registry) α

/-- What an action answers in a state, and the state that it leaves. -/
def Action.perform {α : Type} (action : Action α) (registry : Registry) :
    Except MappingError α × Registry :=
  Id.run (action.run.run registry)

/-- Claim names one after another. -/
def claimInPlace (scope : NameScope) : List String → Action Unit
  | [] => pure ()
  | name :: names => do
    modify (·.claim scope [name])
    claimInPlace scope names

/-- Bind a group: claim its names, then note what it declares. -/
def bindInPlace (kind : SymbolKind) (group : SymbolGroup) (blittable : Bool) : Action Unit := do
  let native := group.main.nativeName
  claimInPlace kind.scope group.declaredNames
  modify (·.markEmitted kind native)
  modify (·.markBody native group.main.body)
  if blittable then
    modify (·.markBlittable native)

/-- Process a declaration and answer with the symbols that it yields. -/
def processInPlace (options : BindingOptions) (kind : SymbolKind) (declaration : Declaration) :
    Action (List BindingSymbol) := do
  let registry ← get
  if registry.isBound kind declaration then
    return []
  let mapper := registry.mapper options.marshalStrings
  match ← MonadExcept.ofExcept (mapper.lower options.naming kind declaration) with
  | none => return []
  | some group =>
    match (← get).firstConflict? kind.scope group.declaredNames with
    | some name => throw (.nameCollision name)
    | none =>
      bindInPlace kind group (mapper.holdsNoReference group)
      return group.symbols

/-- The symbols of an answer, none if there was a failure. -/
def yieldOf : Except MappingError (List BindingSymbol) → List BindingSymbol
  | .ok symbols => symbols
  | .error _ => []

/-- Process declarations one after another, each in the state that the one before it has left. -/
def runInPlace (options : BindingOptions) (registry : Registry) :
    List (SymbolKind × Declaration) → List BindingSymbol × Registry
  | [] => ([], registry)
  | (kind, declaration) :: work =>
    let (answer, after) := (processInPlace options kind declaration).perform registry
    let (symbols, last) := runInPlace options after work
    (yieldOf answer ++ symbols, last)

/-- The declarations that yield symbols when they are processed one after another. -/
def yielding (options : BindingOptions) (registry : Registry) :
    List (SymbolKind × Declaration) → List (SymbolKind × Declaration)
  | [] => []
  | (kind, declaration) :: work =>
    let (answer, after) := (processInPlace options kind declaration).perform registry
    if (yieldOf answer).isEmpty then yielding options after work
    else (kind, declaration) :: yielding options after work

/-! ## What the commands do -/

variable {options : BindingOptions} {registry : Registry} {kind : SymbolKind}
  {declaration : Declaration}

namespace Action

variable {α β : Type} (registry : Registry)

@[simp] theorem perform_pure (a : α) : (pure a : Action α).perform registry = (.ok a, registry) :=
  rfl

@[simp] theorem perform_throw (error : MappingError) :
    (throw error : Action α).perform registry = (.error error, registry) := rfl

@[simp] theorem perform_get : (get : Action Registry).perform registry = (.ok registry, registry) :=
  rfl

@[simp] theorem perform_modify (change : Registry → Registry) :
    (modify change : Action PUnit).perform registry = (.ok ⟨⟩, change registry) := rfl

@[simp] theorem perform_ofExcept (answer : Except MappingError α) :
    (MonadExcept.ofExcept answer : Action α).perform registry = (answer, registry) := by
  cases answer <;> rfl

/-- A failure keeps what has been made of the state, and what comes after it is left undone. -/
@[simp] theorem perform_bind (action : Action α) (next : α → Action β) :
    (action >>= next).perform registry =
      match action.perform registry with
      | (.ok a, after) => (next a).perform after
      | (.error error, after) => (.error error, after) := by
  cases hanswer : action.perform registry with
  | mk answer after =>
      have hrun : action.run.run registry = (answer, after) := hanswer
      rw [perform, ExceptT.run_bind, StateT.run_bind, hrun]
      cases answer <;> rfl

@[simp] theorem perform_map (f : α → β) (action : Action α) :
    (f <$> action).perform registry =
      ((action.perform registry).1.map f, (action.perform registry).2) := by
  rw [map_eq_pure_bind, perform_bind]
  cases action.perform registry with
  | mk answer after => cases answer <;> rfl

end Action

@[simp] theorem perform_claimInPlace (scope : NameScope) (names : List String)
    (registry : Registry) :
    (claimInPlace scope names).perform registry = (.ok (), registry.claim scope names) := by
  induction names generalizing registry with
  | nil => cases scope <;> rfl
  | cons name names ih =>
      have hfirst : (registry.claim scope [name]).claim scope names =
          registry.claim scope (name :: names) := by
        cases scope <;> rfl
      simp [claimInPlace, ih, hfirst]

@[simp] theorem perform_bindInPlace (kind : SymbolKind) (group : SymbolGroup) (blittable : Bool)
    (registry : Registry) :
    (bindInPlace kind group blittable).perform registry =
      (.ok (), registry.bind kind group blittable) := by
  cases blittable <;> simp [bindInPlace, Registry.bind]

variable {options : BindingOptions} {registry : Registry} {kind : SymbolKind}
  {declaration : Declaration}

/-- Processing in place does what `Registry.process` says, and changes nothing unless a group is
bound. -/
theorem perform_processInPlace (options : BindingOptions) (kind : SymbolKind)
    (declaration : Declaration) (registry : Registry) :
    (processInPlace options kind declaration).perform registry =
      match registry.process options kind declaration with
      | .error error => (.error error, registry)
      | .ok none => (.ok [], registry)
      | .ok (some (group, after)) => (.ok group.symbols, after) := by
  cases hbound : registry.isBound kind declaration with
  | true => simp [processInPlace, process_of_isBound hbound, hbound]
  | false =>
      have hmapper : registry.mapper options.marshalStrings = options.mapper registry.index := rfl
      simp only [processInPlace, process_of_not_isBound hbound, hbound, hmapper,
        Action.perform_bind, Action.perform_get, Action.perform_ofExcept, Bool.false_eq_true,
        if_false]
      cases (options.mapper registry.index).lower options.naming kind declaration with
      | error error => rfl
      | ok answer =>
          cases answer with
          | none => rfl
          | some group =>
              cases hconflict : registry.firstConflict? kind.scope group.declaredNames with
              | some name => simp [hconflict]
              | none => simp [hconflict, Except.map]

/-! ## Failures and runs -/

/-- Unless a declaration yields symbols, the state after it is the state before it. -/
theorem perform_processInPlace_of_isEmpty {answer : Except MappingError (List BindingSymbol)}
    {after : Registry}
    (h : (processInPlace options kind declaration).perform registry = (answer, after))
    (hempty : (yieldOf answer).isEmpty = true) : after = registry := by
  rw [perform_processInPlace] at h
  split at h
  next => exact (Prod.mk.inj h).2.symm
  next => exact (Prod.mk.inj h).2.symm
  next group _ _ =>
    obtain ⟨rfl, -⟩ := Prod.mk.inj h
    have hmain : group.main ∈ yieldOf (.ok group.symbols) := SymbolGroup.main_mem_symbols
    rw [List.isEmpty_iff.mp hempty] at hmain
    cases hmain

theorem yielding_sublist (options : BindingOptions) (registry : Registry)
    (work : List (SymbolKind × Declaration)) :
    (yielding options registry work).Sublist work := by
  induction work generalizing registry with
  | nil => exact .slnil
  | cons item work ih =>
      rw [yielding]
      dsimp only
      split
      · exact (ih _).cons item
      · exact (ih _).cons_cons item

/-- A run without the declarations that yield nothing comes to the same end. -/
theorem runInPlace_yielding (options : BindingOptions) (registry : Registry)
    (work : List (SymbolKind × Declaration)) :
    runInPlace options registry (yielding options registry work) =
      runInPlace options registry work := by
  induction work generalizing registry with
  | nil => rfl
  | cons item work ih =>
      obtain ⟨kind, declaration⟩ := item
      cases hperform : (processInPlace options kind declaration).perform registry with
      | mk answer after =>
          cases hempty : (yieldOf answer).isEmpty with
          -- the rest of the work starts from the same state with and without the declaration
          | true =>
              have hafter : after = registry := perform_processInPlace_of_isEmpty hperform hempty
              subst hafter
              simp [yielding, runInPlace, hperform, ih, List.isEmpty_iff.mp hempty]
          | false => simp [yielding, runInPlace, hperform, hempty, ih]

/-- Processing in place comes to the symbols and to the state of the run. -/
theorem goThrough_eq_runInPlace (options : BindingOptions) (run : BindingRun)
    (work : List (SymbolKind × Declaration)) :
    (run.goThrough options work).symbols =
        run.symbols ++ (runInPlace options run.registry work).1 ∧
      (run.goThrough options work).registry = (runInPlace options run.registry work).2 := by
  induction work generalizing run with
  | nil => simp [runInPlace]
  | cons item work ih =>
      obtain ⟨kind, declaration⟩ := item
      have hperform := perform_processInPlace options kind declaration run.registry
      rw [BindingRun.goThrough_cons, (ih _).1, (ih _).2]
      cases hprocess : run.registry.process options kind declaration with
      | error error =>
          rw [hprocess] at hperform
          simp [runInPlace, BindingRun.step_of_process_eq_error hprocess, hperform, yieldOf,
            BindingRun.symbols]
      | ok answer =>
          cases answer with
          | none =>
              rw [hprocess] at hperform
              simp [runInPlace, BindingRun.step_of_process_eq_none hprocess, hperform, yieldOf]
          | some bound =>
              obtain ⟨group, after⟩ := bound
              rw [hprocess] at hperform
              simp [runInPlace, BindingRun.step_of_process_eq_some hprocess, hperform, yieldOf,
                BindingRun.symbols]

/-- Processing in place does what `Registry.process` says, and a declaration that fails or has
nothing to bind leaves the state as it was. So a run over some headers from any state comes to the
symbols and to the state that the declarations that yield symbols come to on their own. -/
theorem failures_leave_no_trace (options : BindingOptions) (registry : Registry)
    (units : List TranslationUnit) :
    (∀ kind declaration, (processInPlace options kind declaration).perform registry =
      match registry.process options kind declaration with
      | .error error => (.error error, registry)
      | .ok none => (.ok [], registry)
      | .ok (some (group, after)) => (.ok group.symbols, after)) ∧
    (∀ kind declaration answer after,
      (processInPlace options kind declaration).perform registry = (answer, after) →
        (∃ error, answer = .error error) ∨ answer = .ok [] → after = registry) ∧
    let agenda := TranslationUnit.agenda units
    let kept := yielding options registry agenda
    let run := registry.run options units
    runInPlace options registry agenda = (run.symbols, run.registry) ∧
      kept.Sublist agenda ∧
      runInPlace options registry kept = (run.symbols, run.registry) := by
  have hrun : runInPlace options registry (TranslationUnit.agenda units) =
      ((registry.run options units).symbols, (registry.run options units).registry) := by
    obtain ⟨hsymbols, hregistry⟩ :=
      goThrough_eq_runInPlace options (.start registry) (TranslationUnit.agenda units)
    exact (Prod.ext hsymbols hregistry).symm
  refine ⟨?_, ?_, hrun, yielding_sublist _ _ _, (runInPlace_yielding _ _ _).trans hrun⟩
  · intro kind declaration
    exact perform_processInPlace options kind declaration registry
  · intro kind declaration answer after hperform hfails
    refine perform_processInPlace_of_isEmpty hperform ?_
    cases hfails with
    | inl herror =>
        obtain ⟨error, rfl⟩ := herror
        rfl
    | inr hempty =>
        subst hempty
        rfl

/-- A header with declarations that yield nothing: a structure whose bit-field is met after a
nested record was lowered, another one whose delegate wants a name that is taken, a typedef that
repeats a name and a function that other headers do not see. -/
def faulty : List TranslationUnit :=
  [.ofDeclarations "faulty.h" [
    .ofStruct "Flags" [.ofStruct "" [.ofField "x" .int, .ofField "moved" .callback],
      { Declaration.ofField "bits" .int with bitWidth := some 3 }],
    .ofStruct "Job_done" [.ofField "x" .int],
    .ofStruct "Job" [.ofField "done" .callback],
    .ofAlias "Job" (.record "Job"),
    .ofStruct "Point" [.ofField "x" .int],
    { Declaration.ofFunction "hidden" [] with linkage := .internal },
    .ofFunction "shown" []]]

theorem failures_leave_no_trace_faulty :
    let registry := BindingOptions.sample.registry ∅
    let agenda := TranslationUnit.agenda faulty
    let kept := yielding .sample registry agenda
    agenda.map (·.2.spelling) =
        ["Flags", "Job_done", "Job", "Point", "Job", "hidden", "shown"] ∧
      kept.map (·.2.spelling) = ["Job_done", "Point", "shown"] ∧
      (registry.run .sample faulty).skipped.map (·.name) = ["Flags", "Job"] ∧
      runInPlace .sample registry kept =
        ((registry.run .sample faulty).symbols, (registry.run .sample faulty).registry) := by
  intro registry agenda kept
  obtain ⟨-, -, -, -, hkept⟩ := failures_leave_no_trace .sample registry faulty
  exact ⟨by decide +kernel, by decide +kernel, by decide +kernel, hkept⟩

end Interop.Registry
