import Interop.Proofs.Binding.Containment
import Interop.Proofs.Lowering.MemberNames

/-!
# Names of the members that a run declares

Of every structure that a run declares it can be told from the header whether the names of its
members differ from each other and from that of the structure
(`BindingOptions.separatesMembers_iff`). The header may not call a field or the structure like a
numbered member, nor a field like the renamed one beside it, nor a typedef like the field of its
wrapper.
-/

namespace Interop

open Identifier

/-- The fields of each record in some headers have different names, all of them identifiers. -/
def TranslationUnit.DistinctFields (units : List TranslationUnit) : Prop :=
  ∀ node ∈ nodes units, node.kind.isRecord = true →
    node.fieldNames.Nodup ∧ ∀ field ∈ node.fieldNames, isValid field = true

instance (units : List TranslationUnit) : Decidable (TranslationUnit.DistinctFields units) :=
  inferInstanceAs (Decidable (∀ node ∈ TranslationUnit.nodes units, node.kind.isRecord = true →
    node.fieldNames.Nodup ∧ ∀ field ∈ node.fieldNames, isValid field = true))

theorem Declaration.isRecord_of_bindingKind? {declaration : Declaration}
    (h : declaration.bindingKind? = some .struct) : declaration.kind.isRecord = true := by
  rw [bindingKind?] at h
  split at h
  · cases hkind : declaration.kind <;> simp_all [DeclarationKind.isRecord]
  · cases h

namespace BindingOptions

variable (options : BindingOptions) (units : List TranslationUnit)

/-- Every structure is that of a record in the header, lifted out or not, or the wrapper of a
typedef. The members of the former are kept apart exactly if nothing meets in the record, the member
of the latter exactly if the typedef is called otherwise. -/
theorem separatesMembers_iff (distinct : TranslationUnit.DistinctFields units) :
    ∀ symbol ∈ (options.generate units).symbols,
      (∀ isUnion pack fields, symbol.body = .record isUnion pack fields →
        ∃ record ∈ TranslationUnit.nodes units, ∃ name group,
          (options.mapper (options.buildIndex units)).lowerRecordAs record name = .ok group ∧
          symbol = group.main ∧ (symbol.SeparatesMembers ↔ record.KeepsNamesApart name)) ∧
      ∀ field type, symbol.body = .wrapper field type →
        field = Mapper.wrapperField type ∧
          (symbol.SeparatesMembers ↔ bare symbol.emittedName ≠ field) := by
  intro symbol hsymbol
  obtain ⟨group, hgroup, hin⟩ := List.mem_flatMap.mp hsymbol
  obtain ⟨kind, declaration, hwork, hlowers⟩ :=
    (options.accounts_run units (options.buildIndex units)).lowered group hgroup
  cases hlowers with
  | record named lowered =>
      have hrecord := Declaration.isRecord_of_bindingKind?
        (TranslationUnit.bindingKind?_of_mem_agenda hwork)
      obtain ⟨-, isUnion, pack, fields, hbody⟩ := Mapper.record_of_mem_symbols lowered hin
      obtain ⟨node, hnode, hkind, name, own, hown, rfl⟩ :=
        Mapper.origin_of_mem_symbols lowered hrecord hin
      have hmem := TranslationUnit.nodes_of_mem_agenda hwork hnode
      obtain ⟨hnodup, hvalid⟩ := distinct node hmem hkind
      refine ⟨fun _ _ _ _ => ⟨node, hmem, name, own, hown, rfl,
        Mapper.separatesMembers_main_iff hown hnodup hvalid⟩, fun field type hwrapper => ?_⟩
      cases hbody.symm.trans hwrapper
  | wrapper targeted untagged object mapped =>
      cases List.mem_singleton.mp hin
      refine ⟨nofun, fun field type hbody => ?_⟩
      cases hbody
      exact ⟨rfl, separatesMembers_wrapper_iff rfl⟩
  | delegate | enumeration | function =>
      cases List.mem_singleton.mp hin
      exact ⟨nofun, nofun⟩

/-- A structure with a field of its own reserved name and an anonymous member, and a typedef. -/
def apart : List TranslationUnit :=
  [.ofDeclarations "lock.h" [
    .ofStruct "lock" [.ofField "lock" .int,
      { Declaration.ofStruct "" [.ofField "owner" .int] with isAnonymousMember := true }],
    .ofAlias "Speed" .int]]

theorem separatesMembers_iff_apart :
    TranslationUnit.DistinctFields apart ∧
      (sample.generate apart).symbols.map
          (fun symbol => (symbol.emittedName, symbol.body.memberNames)) =
        [("lock_Anonymous0", ["owner"]), ("@lock", ["@lock_", "Anonymous0"]),
          ("Speed", ["Value"])] ∧
      ∀ symbol ∈ (sample.generate apart).symbols,
        (∀ isUnion pack fields, symbol.body = .record isUnion pack fields →
          ∃ record ∈ TranslationUnit.nodes apart, ∃ name, record.KeepsNamesApart name) ∧
        ∀ field type, symbol.body = .wrapper field type → bare symbol.emittedName ≠ field := by
  have hdistinct : TranslationUnit.DistinctFields apart := by decide +kernel
  have hkept : ∀ symbol ∈ (sample.generate apart).symbols, symbol.SeparatesMembers := by
    decide +kernel
  refine ⟨hdistinct, by decide +kernel, fun symbol hsymbol => ?_⟩
  obtain ⟨hrecord, hwrapper⟩ := separatesMembers_iff sample apart hdistinct symbol hsymbol
  refine ⟨fun isUnion pack fields hbody => ?_, fun field type hbody => ?_⟩
  · obtain ⟨record, hmem, name, _, -, -, hiff⟩ := hrecord isUnion pack fields hbody
    exact ⟨record, hmem, name, hiff.mp (hkept symbol hsymbol)⟩
  · exact (hwrapper field type hbody).2.mp (hkept symbol hsymbol)

/-- Structures whose members meet: the renamed field another field, an anonymous member a field and
then the structure, and the member of a wrapper the wrapper. -/
def meeting : List TranslationUnit :=
  let part : Declaration :=
    { Declaration.ofStruct "" [.ofField "x" .int] with isAnonymousMember := true }
  [.ofDeclarations "meeting.h" [
    .ofStruct "foo" [.ofField "foo" .int, .ofField "foo_" .int],
    .ofStruct "S" [part, .ofField "Anonymous0" .int],
    .ofStruct "Anonymous0" [part],
    .ofAlias "Value" .int]]

/-- Different fields do not keep the members of structures apart. -/
theorem not_separatesMembers_meeting :
    ((sample.generate meeting).symbols.filter fun symbol => ¬ symbol.SeparatesMembers).map
        (·.emittedName) = ["foo", "S", "Anonymous0", "Value"] ∧
      ¬ ∀ (options : BindingOptions) (units : List TranslationUnit),
        TranslationUnit.DistinctFields units →
        ∀ symbol ∈ (options.generate units).symbols, symbol.body.isStructure = true →
          symbol.SeparatesMembers := by
  refine ⟨by decide +kernel, fun h => ?_⟩
  exact absurd (h sample meeting (by decide +kernel)) (by decide +kernel)

end BindingOptions

end Interop
