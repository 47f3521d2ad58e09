import Interop.Config.Validation
import Interop.Proofs.Binding.Claims
import Interop.Proofs.Binding.References
import Interop.Proofs.Binding.Settling
import Interop.Proofs.Lowering.Names

/-!
# What a name means in the generated source

A run keeps the names of the namespace apart from one another, and those of the class that holds
the functions. But the scopes are nested: the class is itself a declaration of the namespace, and
inside the class the names of its members hide those of the namespace. Claims do not see this.
The name of the class is not claimed in the namespace, and a delegate of a function is not compared
with the types that functions refer to.

So two things may go wrong, and here it is pinned down when they do. The declarations stand for
different identifiers exactly if nothing else in the namespace, and no member of the class under
its plain name, is called like the class. A reference from within the class is hidden only by a
delegate of a function, so only if the type is called like that function with an underscore and
more after it.
-/

namespace Interop

open Identifier

namespace BindingRun.Accounts

variable {options : BindingOptions} {index : SymbolIndex} {units : List TranslationUnit}
  {run : BindingRun} {scope : NameScope} {name : String} {symbol : BindingSymbol}

/-- When the headers write no `@`, the identifier of an emitted name determines it. -/
theorem escape_bare_of_mem_names
    (h : Accounts options index (TranslationUnit.agenda units) run)
    (unmarked : ∀ key ∈ TranslationUnit.keys units, isMarked key.2 = false)
    (hname : name ∈ run.names scope) : escape (bare name) = name := by
  obtain ⟨group, hgroup, -, hdeclared⟩ := mem_declared.mp (h.mem_names_iff.mp hname)
  obtain ⟨kind, declaration, hwork, hlowers⟩ := h.lowered group hgroup
  exact hlowers.escape_bare (unmarked _ (TranslationUnit.mem_keys hwork hlowers.nativeName_eq))
    hdeclared

theorem exists_lowers_of_isContained {work : List (SymbolKind × Declaration)}
    (h : Accounts options index work run) (hsymbol : symbol ∈ run.symbols)
    (contained : symbol.isContained = true) :
    ∃ declaration group, (options.mapper index).Lowers options.naming .function declaration group ∧
      group.hoisted = [] ∧ group.main = symbol := by
  obtain ⟨group, hgroup, hin⟩ := List.mem_flatMap.mp hsymbol
  obtain ⟨kind, declaration, -, hlowers⟩ := h.lowered group hgroup
  have hkind : kind = .function := by
    rw [← hlowers.kind_eq hin]
    simpa [BindingSymbol.isContained] using contained
  subst hkind
  have hhoisted := hlowers.hoisted_eq_nil nofun
  refine ⟨declaration, group, hlowers, hhoisted, ?_⟩
  rw [SymbolGroup.symbols, hhoisted] at hin
  exact (List.mem_singleton.mp hin).symm

/-- A member of the class refers to nothing but the index. -/
theorem lists_of_isContained {work : List (SymbolKind × Declaration)}
    (h : Accounts options index work run) (hsymbol : symbol ∈ run.symbols)
    (contained : symbol.isContained = true) (hname : symbol.Exposes (.named name)) :
    index.Lists name := by
  obtain ⟨declaration, group, hlowers, hhoisted, rfl⟩ :=
    h.exists_lowers_of_isContained hsymbol contained
  rcases hlowers.lists_or_hoists SymbolGroup.main_mem_symbols hname with
    hlists | ⟨hoisted, hin, -⟩
  · exact hlists
  · simp [hhoisted] at hin

/-- The delegates of a function are called after it. -/
theorem continues_of_isContained {work : List (SymbolKind × Declaration)}
    (h : Accounts options index work run) (hsymbol : symbol ∈ run.symbols)
    (contained : symbol.isContained = true) :
    ∀ delegate ∈ symbol.delegates, Continues delegate.name symbol.nativeName := by
  obtain ⟨declaration, group, hlowers, -, rfl⟩ := h.exists_lowers_of_isContained hsymbol contained
  exact (hlowers.continues_of_mem_symbols SymbolGroup.main_mem_symbols).2

end BindingRun.Accounts

namespace BindingOptions

variable (options : BindingOptions) (units : List TranslationUnit)

/-! ## Names of the namespace -/

/-- The declarations of the namespace, the class that holds the functions being one of them, stand
for different identifiers, and no member of the class stands for that of the class. -/
def SeparatesNames : Prop :=
  ((options.container :: (options.finalRun units).names .types).map bare).Nodup ∧
    ∀ name ∈ (options.finalRun units).names .container, bare name ≠ bare options.container

instance : Decidable (options.SeparatesNames units) :=
  inferInstanceAs (Decidable (_ ∧ _))

/-- Identifiers are kept apart exactly when nothing in the namespace has that of the class and no
member of the class is called so without an `@`. -/
theorem separatesNames_iff (written : isWritten options.container = true)
    (unmarked : ∀ key ∈ TranslationUnit.keys units, isMarked key.2 = false) :
    options.SeparatesNames units ↔
      bare options.container ∉ ((options.finalRun units).names .types).map bare ∧
        bare options.container ∉ (options.finalRun units).names .container := by
  have haccounts : (options.finalRun units).Accounts options (options.buildIndex units)
      (TranslationUnit.agenda units) := options.accounts_run units (options.buildIndex units)
  have hbare : ∀ scope, ∀ name ∈ (options.finalRun units).names scope,
      escape (bare name) = name :=
    fun _ _ hname => haccounts.escape_bare_of_mem_names unmarked hname
  have htypes : (((options.finalRun units).names .types).map bare).Nodup := by
    refine (haccounts.nodup_names .types).map_on fun first hfirst second hsecond hsame => ?_
    rw [← hbare _ first hfirst, hsame, hbare _ second hsecond]
  obtain ⟨hunmarked, hclass⟩ := escape_bare_of_isWritten written
  rw [SeparatesNames, List.map_cons, List.nodup_cons]
  constructor
  · rintro ⟨⟨hfree, -⟩, hmembers⟩
    exact ⟨hfree, fun hmember => hmembers _ hmember (bare_of_not_isMarked hunmarked)⟩
  · rintro ⟨hfree, hmember⟩
    refine ⟨⟨hfree, htypes⟩, fun name hname hsame => ?_⟩
    have hwritten := hbare .container name hname
    rw [hsame] at hwritten
    rcases hclass with hcontainer | hplain
    · -- the name is that of the class to the letter, which is claimed
      rw [hcontainer] at hwritten
      exact options.container_not_mem_names units _ (hwritten ▸ hname)
    · rw [hplain] at hwritten
      exact hmember (hwritten ▸ hname)

/-- A structure with a reserved name and a function that takes it and a function pointer. -/
def reserved : List TranslationUnit :=
  [.ofDeclarations "lock.h" [
    .ofStruct "lock" [.ofField "released" .callback],
    .ofFunction "acquire" [("lock", .record "lock"), ("done", .callback)]]]

theorem separatesNames_iff_reserved :
    isWritten sample.container = true ∧
      (∀ key ∈ TranslationUnit.keys reserved, isMarked key.2 = false) ∧
      (sample.finalRun reserved).names .types = ["@lock", "lock_released"] ∧
      (sample.finalRun reserved).names .container = ["acquire", "acquire_done"] ∧
      sample.SeparatesNames reserved :=
  ⟨by decide +kernel, by decide +kernel, by decide +kernel, by decide +kernel,
    (separatesNames_iff sample reserved (by decide +kernel) (by decide +kernel)).mpr
      (by decide +kernel)⟩

/-- A structure called like the class that holds the functions. -/
def namesakes : List TranslationUnit :=
  [.ofDeclarations "n.h" [.ofStruct "NativeMethods" [.ofField "x" .int],
    .ofFunction "NativeCalls" []]]

/-- The structure is declared beside the class of its name, and a function inside a class whose
name is written with an `@`. -/
theorem not_separatesNames_namesakes :
    (isWritten sample.container = true ∧ Config.isNameSpace sample.nameSpace = true ∧
      ¬ sample.SeparatesNames namesakes) ∧
    let marked : BindingOptions := { sample with container := "@NativeCalls" }
    isWritten marked.container = true ∧ Config.isNameSpace marked.nameSpace = true ∧
      ¬ marked.SeparatesNames namesakes := by
  refine ⟨⟨?_, ?_, ?_⟩, ?_, ?_, ?_⟩ <;> decide +kernel

/-! ## References from within the class -/

/-- No member of the class refers to a type by the name of one of its delegates, which hides the
type there. What the delegates of a function refer to, the function exposes. -/
def CapturesNone : Prop :=
  ∀ symbol ∈ (options.generate units).symbols, symbol.isContained = true →
    ∀ name, symbol.Exposes (.named name) →
      ∀ other ∈ (options.generate units).symbols, other.isContained = true →
        ∀ delegate ∈ other.delegates, delegate.name ≠ name

/-- No reference is captured exactly when no delegate of a function has the name of a type that
the members of the class refer to, that the index lists, and whose name continues that of the
function. -/
theorem capturesNone_iff :
    options.CapturesNone units ↔
      ∀ name, (options.buildIndex units).Lists name →
        (∃ symbol ∈ (options.generate units).symbols, symbol.isContained = true ∧
          symbol.Exposes (.named name)) →
        ∀ other ∈ (options.generate units).symbols, other.isContained = true →
          Continues name other.nativeName → name ∉ other.delegates.map (·.name) := by
  have haccounts := options.accounts_run units (options.buildIndex units)
  constructor
  · rintro hnone name - ⟨symbol, hsymbol, hcontained, hexposes⟩ other hother hcontained' - hname
    obtain ⟨delegate, hdelegate, hsame⟩ := List.mem_map.mp hname
    exact hnone symbol hsymbol hcontained name hexposes other hother hcontained' delegate
      hdelegate hsame
  · intro hfree symbol hsymbol hcontained name hexposes other hother hcontained' delegate
      hdelegate hsame
    have hlists := haccounts.lists_of_isContained hsymbol hcontained hexposes
    have hcontinues := haccounts.continues_of_isContained hother hcontained' delegate hdelegate
    rw [hsame] at hcontinues
    exact hfree name hlists ⟨symbol, hsymbol, hcontained, hexposes⟩ other hother hcontained'
      hcontinues (List.mem_map.mpr ⟨delegate, hdelegate, hsame⟩)

/-- A structure that is called like the delegate of a function, and a function that takes it. -/
def hidden : List TranslationUnit :=
  [.ofDeclarations "h.h" [
    .ofStruct "f_cb" [.ofField "x" .int],
    .ofFunction "f" [("cb", .callback)],
    .ofFunction "g" [("value", .record "f_cb")]]]

/-- The delegate of `f` hides the structure from `g`. -/
theorem not_capturesNone_hidden : ¬ sample.CapturesNone hidden := by
  intro hnone
  have hrefers : ∃ symbol ∈ (sample.generate hidden).symbols, symbol.isContained = true ∧
      symbol.body.types.filterMap (·.embedded?) = ["f_cb"] := by decide +kernel
  obtain ⟨symbol, hsymbol, hcontained, htypes⟩ := hrefers
  have hname : "f_cb" ∈ symbol.body.types.filterMap (·.embedded?) := htypes ▸ List.mem_cons_self
  obtain ⟨type, htype, hembedded⟩ := List.mem_filterMap.mp hname
  have hdelegate : ∃ other ∈ (sample.generate hidden).symbols, other.isContained = true ∧
      "f_cb" ∈ other.delegates.map (·.name) := by decide +kernel
  obtain ⟨other, hother, hcontained', hin⟩ := hdelegate
  obtain ⟨delegate, hdelegate, hsame⟩ := List.mem_map.mp hin
  exact hnone symbol hsymbol hcontained "f_cb"
    ⟨type, htype, ManagedType.exposes_of_embedded? hembedded⟩ other hother hcontained' delegate
    hdelegate hsame

end BindingOptions

end Interop
