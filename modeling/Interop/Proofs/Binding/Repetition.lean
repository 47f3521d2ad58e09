import Interop.Proofs.Binding.Answers
import Interop.Proofs.Binding.References
import Interop.Proofs.Binding.Settling

/-!
# Headers listed again

A header that is listed again at the end changes nothing but the reasons for which declarations
are skipped. In each of its four passes a run is done with the declarations of the header before
it meets them again, so the copy binds nothing and reports nothing new (`BindingRun.Agrees`).
Hence all rounds discover the same indices, and the last run binds the same symbols
(`BindingOptions.generate_append_of_mem`). A reason may differ, since of the names that a
declaration wants another one may be taken by then.
-/

namespace Interop

namespace BindingRun

variable {options : BindingOptions} {first second run : BindingRun}
  {work : List (SymbolKind × Declaration)} {kind : SymbolKind} {declaration : Declaration}

/-- Runs that have bound the same and skipped the same, maybe for other reasons. -/
structure Agrees (first second : BindingRun) : Prop where
  registry_eq : first.registry = second.registry
  groups_eq : first.groups = second.groups
  mem_reported_iff : ∀ key, key ∈ first.reported ↔ key ∈ second.reported

namespace Agrees

theorem refl (run : BindingRun) : run.Agrees run := ⟨rfl, rfl, fun _ => Iff.rfl⟩

theorem trans {third : BindingRun} (h : first.Agrees second) (h' : second.Agrees third) :
    first.Agrees third :=
  ⟨h.registry_eq.trans h'.registry_eq, h.groups_eq.trans h'.groups_eq,
    fun key => (h.mem_reported_iff key).trans (h'.mem_reported_iff key)⟩

theorem step (h : first.Agrees second) (kind : SymbolKind) (declaration : Declaration) :
    (first.step options kind declaration).Agrees (second.step options kind declaration) := by
  have hsame : second.registry.process options kind declaration =
      first.registry.process options kind declaration := by rw [h.registry_eq]
  rcases hprocess : first.registry.process options kind declaration with
    error | _ | ⟨group, after⟩
  · rw [step_of_process_eq_error hprocess, step_of_process_eq_error (hsame.trans hprocess)]
    refine ⟨?_, ?_, fun key => ?_⟩
    · rw [registry_skip, registry_skip, h.registry_eq]
    · rw [groups_skip, groups_skip, h.groups_eq]
    · rw [mem_reported_skip, mem_reported_skip, h.mem_reported_iff]
  · rw [step_of_process_eq_none hprocess, step_of_process_eq_none (hsame.trans hprocess)]
    exact h
  · rw [step_of_process_eq_some hprocess, step_of_process_eq_some (hsame.trans hprocess)]
    refine ⟨rfl, ?_, h.mem_reported_iff⟩
    rw [h.groups_eq]

theorem goThrough (h : first.Agrees second) (work : List (SymbolKind × Declaration)) :
    (first.goThrough options work).Agrees (second.goThrough options work) := by
  induction work generalizing first second with
  | nil => exact h
  | cons item work ih => exact ih (h.step item.1 item.2)

end Agrees

/-- Going on with a declaration that is done with changes nothing. -/
theorem IsDone.agrees_step (h : run.IsDone options kind declaration) :
    (run.step options kind declaration).Agrees run := by
  rcases h with hnone | ⟨⟨error, herror⟩, hreported⟩
  · rw [step_of_process_eq_none hnone]
    exact .refl run
  · rw [step_of_process_eq_error herror]
    refine ⟨registry_skip, groups_skip, fun key => mem_reported_skip.trans ?_⟩
    exact or_iff_right_of_imp fun hkey => hkey ▸ hreported

theorem goThrough_agrees_of_isDone
    (h : ∀ kind declaration, (kind, declaration) ∈ work → run.IsDone options kind declaration) :
    (run.goThrough options work).Agrees run := by
  induction work generalizing run with
  | nil => exact .refl run
  | cons item work ih =>
      obtain ⟨kind, declaration⟩ := item
      rw [goThrough_cons]
      have hdone := h kind declaration List.mem_cons_self
      refine (ih fun other next hwork => ?_).trans hdone.agrees_step
      exact (h other next (List.mem_cons_of_mem _ hwork)).extend (.step run kind declaration)

end BindingRun

/-! ## Passes -/

namespace TranslationUnit

variable {units : List TranslationUnit} {parsed : TranslationUnit}

/-- The declarations of one kind that a run comes to. -/
def pass (units : List TranslationUnit) (kind : SymbolKind) : List (SymbolKind × Declaration) :=
  units.flatMap fun parsed =>
    (parsed.declarations.filter fun declaration => declaration.bindingKind? = some kind).map
      fun declaration => (kind, declaration)

theorem pass_append {more : List TranslationUnit} {kind : SymbolKind} :
    pass (units ++ more) kind = pass units kind ++ pass more kind :=
  List.flatMap_append

theorem pass_singleton_subset (h : parsed ∈ units) (kind : SymbolKind) :
    pass [parsed] kind ⊆ pass units kind := by
  intro item hitem
  obtain ⟨other, hother, hin⟩ := List.mem_flatMap.mp hitem
  rw [List.mem_singleton.mp hother] at hin
  exact List.mem_flatMap.mpr ⟨parsed, h, hin⟩

end TranslationUnit

namespace BindingRun

open TranslationUnit

variable {options : BindingOptions} {first second : BindingRun} {units : List TranslationUnit}
  {parsed : TranslationUnit}

/-- The copy of a header adds nothing to any pass. -/
theorem Agrees.passes (h : first.Agrees second) (hmem : parsed ∈ units)
    (kinds : List SymbolKind) :
    (first.goThrough options (kinds.flatMap (pass (units ++ [parsed])))).Agrees
      (second.goThrough options (kinds.flatMap (pass units))) := by
  induction kinds generalizing first second with
  | nil => exact h
  | cons kind kinds ih =>
      rw [List.flatMap_cons, List.flatMap_cons, goThrough_append, goThrough_append, pass_append,
        goThrough_append]
      -- the copy comes last in the pass, when the run is done with the header itself
      have hcopy : ((first.goThrough options (pass units kind)).goThrough options
          (pass [parsed] kind)).Agrees (first.goThrough options (pass units kind)) :=
        goThrough_agrees_of_isDone fun _ _ hwork =>
          isDone_of_mem (pass_singleton_subset hmem kind hwork)
      exact ih (hcopy.trans (h.goThrough _))

end BindingRun

namespace BindingOptions

variable {options : BindingOptions} {units : List TranslationUnit} {parsed : TranslationUnit}

theorem run_append_agrees (h : parsed ∈ units) (index : SymbolIndex) :
    ((options.registry index).run options (units ++ [parsed])).Agrees
      ((options.registry index).run options units) :=
  (BindingRun.Agrees.refl _).passes h SymbolKind.passes

theorem buildIndex_append (h : parsed ∈ units) :
    options.buildIndex (units ++ [parsed]) = options.buildIndex units := by
  have hdiscover : options.discover (units ++ [parsed]) = options.discover units :=
    funext fun index => congrArg Registry.discovered (run_append_agrees h index).registry_eq
  rw [buildIndex, buildIndex, settle_eq_iterate, settle_eq_iterate, hdiscover]

/-- Listing a header again changes neither the index nor the symbols nor the source, and the same
declarations are skipped. -/
theorem generate_append_of_mem (options : BindingOptions) {units : List TranslationUnit}
    {parsed : TranslationUnit} (h : parsed ∈ units) :
    options.buildIndex (units ++ [parsed]) = options.buildIndex units ∧
      (options.generate (units ++ [parsed])).symbols = (options.generate units).symbols ∧
      (options.generate (units ++ [parsed])).source = (options.generate units).source ∧
      ∀ key, key ∈ (options.generate (units ++ [parsed])).skipped.map (·.key) ↔
        key ∈ (options.generate units).skipped.map (·.key) := by
  have hindex : options.buildIndex (units ++ [parsed]) = options.buildIndex units :=
    buildIndex_append h
  have hrun : (options.finalRun (units ++ [parsed])).Agrees (options.finalRun units) := by
    rw [finalRun, finalRun, hindex]
    exact run_append_agrees h _
  have hsymbols : (options.finalRun (units ++ [parsed])).symbols =
      (options.finalRun units).symbols := by
    rw [BindingRun.symbols, BindingRun.symbols, hrun.groups_eq]
  exact ⟨hindex, hsymbols, congrArg options.sourceOf hsymbols, hrun.mem_reported_iff⟩

/-- A header with a structure whose delegate wants the name of a structure before it, and whose
own name is wanted by the delegate of a structure after it. -/
def contested : TranslationUnit :=
  .ofDeclarations "contested.h" [
    .ofStruct "A_b_cb" [.ofField "x" .int],
    .ofStruct "A_b" [.ofField "cb" .callback],
    .ofStruct "A" [.ofField "b" .callback]]

/-- The copy finds another name taken, so there is a second reason to skip the structure. -/
theorem generate_append_of_mem_contested :
    contested ∈ [contested] ∧
      (sample.generate [contested]).skipped.map (·.name) = ["A_b"] ∧
      (sample.generate ([contested] ++ [contested])).skipped.map (·.name) = ["A_b", "A_b"] ∧
      sample.buildIndex ([contested] ++ [contested]) = sample.buildIndex [contested] ∧
      (sample.generate ([contested] ++ [contested])).symbols =
        (sample.generate [contested]).symbols ∧
      (sample.generate ([contested] ++ [contested])).source =
        (sample.generate [contested]).source ∧
      ∀ key, key ∈ (sample.generate ([contested] ++ [contested])).skipped.map (·.key) ↔
        key ∈ (sample.generate [contested]).skipped.map (·.key) :=
  ⟨List.mem_cons_self, by decide +kernel, by decide +kernel,
    generate_append_of_mem sample List.mem_cons_self⟩

end BindingOptions

end Interop
