import Interop.Proofs.Binding.Functions
import Interop.Proofs.Binding.References
import Interop.Proofs.Binding.Settling
import Interop.Proofs.Lowering.Identifiers

/-!
# Names of the generated source

Headers whose names are identifiers have bindings in which every name can be written
(`BindingOptions.names_are_identifiers`). The symbols of a run can be, as long as the names of
the index that the run consults are identifiers; and these are, because an index lists native names
of bound declarations only, in every round from the empty index on
(`BindingOptions.hasValidNames_buildIndex`).
-/

namespace Interop

open Identifier

/-- The names in some headers are identifiers, reserved or not. -/
def TranslationUnit.HasValidNames (units : List TranslationUnit) : Prop :=
  ∀ node ∈ nodes units, node.IsWellNamed

instance (units : List TranslationUnit) : Decidable (TranslationUnit.HasValidNames units) :=
  inferInstanceAs (Decidable (∀ node ∈ TranslationUnit.nodes units, node.IsWellNamed))

namespace TranslationUnit.HasValidNames

variable {units : List TranslationUnit} {kind : SymbolKind} {declaration : Declaration}

theorem allWellNamed (h : HasValidNames units) (hwork : (kind, declaration) ∈ agenda units) :
    declaration.AllWellNamed :=
  fun node hnode => h node (nodes_of_mem_agenda hwork hnode)

end TranslationUnit.HasValidNames

namespace BindingRun.Accounts

open TranslationUnit

variable {options : BindingOptions} {units : List TranslationUnit} {index : SymbolIndex}
  {run : BindingRun}

/-- What a run discovers are names of declarations, so they are identifiers. -/
theorem hasValidNames_discovered (h : Accounts options index (agenda units) run)
    (hunits : HasValidNames units) : run.registry.discovered.HasValidNames := by
  intro name hlists
  obtain ⟨kind, hname⟩ := SymbolIndex.lists_iff.mp hlists
  obtain ⟨-, -, declaration, hwork, -, hnative, -⟩ := h.exists_lowered_of_mem_names hname
  exact (hunits.allWellNamed hwork).self.isValid_of_nativeName?
    (bindingKind?_of_mem_agenda hwork) hnative

/-- The symbols of a run can be written if the names of its index are identifiers. -/
theorem isWellNamed (h : Accounts options index (agenda units) run)
    (hunits : HasValidNames units) (hindex : index.HasValidNames)
    {symbol : BindingSymbol} (hsymbol : symbol ∈ run.symbols) : symbol.IsWellNamed := by
  obtain ⟨group, hgroup, hin⟩ := List.mem_flatMap.mp hsymbol
  obtain ⟨kind, declaration, hwork, hlowers⟩ := h.lowered group hgroup
  exact hlowers.isWellNamed hindex (hunits.allWellNamed hwork) (bindingKind?_of_mem_agenda hwork)
    hin

end BindingRun.Accounts

namespace BindingOptions

variable (options : BindingOptions) {units : List TranslationUnit}

theorem hasValidNames_buildIndex (h : TranslationUnit.HasValidNames units) :
    (options.buildIndex units).HasValidNames := by
  apply buildIndex_induction
  · intro name hlists
    obtain ⟨kind, hname⟩ := SymbolIndex.lists_iff.mp hlists
    cases kind <;> cases hname
  · -- what the round before listed does not matter
    intro index _
    exact (options.accounts_run units index).hasValidNames_discovered h

/-- When the names in the headers are identifiers, so is every name in the generated source unless
it is escaped, and then it is an identifier behind the mark. This is said of the names among the
pieces that make up the text of a symbol, and of all names that the symbol itself uses. -/
theorem names_are_identifiers (h : TranslationUnit.HasValidNames units) :
    ∀ symbol ∈ (options.generate units).symbols,
      (symbol.pieces options.library).map
          (fun lines => Text.ofLines (lines.map Source.Line.text)) =
        symbol.fragments options.library ∧
      ∀ name, name ∈ symbol.writtenNames options.library ∨ symbol.Uses name →
        isValid name = true ∧ isKeyword name = false ∨
          ∃ inner, isValid inner = true ∧ name = "@" ++ inner := by
  intro symbol hsymbol
  have hnamed : symbol.IsWellNamed :=
    (options.accounts_run units (options.buildIndex units)).isWellNamed h
      (options.hasValidNames_buildIndex h) hsymbol
  refine ⟨symbol.text_pieces options.library, ?_⟩
  intro name hname
  rw [← isWritten_iff]
  rcases hname with hwritten | huses
  · exact hnamed.isWritten_of_mem_writtenNames name hwritten
  · exact hnamed.isWritten_of_uses huses

/-- A structure with reserved names, a nameless part and a function pointer, and a function with
a parameter that has no name and with a prefix to drop. -/
def awkward : List TranslationUnit :=
  [.ofDeclarations "awkward.h" [
    .ofStruct "string" [
      .ofField "string" .int,
      { Declaration.ofStruct "" [.ofField "lock" .int] with isAnonymousMember := true },
      .ofField "ref" .callback],
    .ofAlias "object" .int,
    .ofFunction "lib_out" [("", .record "string"), ("in", .callback)]]]

/-- A user who drops a prefix of function names. -/
def droppingPrefix : BindingOptions := { sample with naming := .ofSettings (some "lib_") [] }

theorem names_are_identifiers_awkward :
    TranslationUnit.HasValidNames awkward ∧
      (droppingPrefix.generate awkward).symbols.map
          (·.writtenNames droppingPrefix.library) = [
        ["string_Anonymous0", "@lock"],
        ["string_ref", "@string", "@string_", "string_Anonymous0", "Anonymous0", "string_ref",
          "@ref"],
        ["@object", "@object", "value", "Value", "value", "Value"],
        ["lib_out_in", "@out", "@string", "arg0", "lib_out_in", "@in"]] ∧
      ∀ symbol ∈ (droppingPrefix.generate awkward).symbols,
        (symbol.pieces droppingPrefix.library).map
            (fun lines => Text.ofLines (lines.map Source.Line.text)) =
          symbol.fragments droppingPrefix.library ∧
        ∀ name, name ∈ symbol.writtenNames droppingPrefix.library ∨ symbol.Uses name →
          isValid name = true ∧ isKeyword name = false ∨
            ∃ inner, isValid inner = true ∧ name = "@" ++ inner :=
  ⟨by decide +kernel, by decide +kernel,
    names_are_identifiers droppingPrefix (by decide +kernel)⟩

end BindingOptions

end Interop
