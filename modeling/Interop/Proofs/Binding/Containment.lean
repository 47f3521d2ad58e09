import Interop.Proofs.Binding.References
import Interop.Proofs.Binding.Settling
import Interop.Proofs.Mapping.Embedding
import Mathlib.Data.Set.Card
import Mathlib.Logic.Relation

/-!
# Structures that contain each other

A structure that contained itself by value would have no finite size. The rounds that settle the
index build structures from the bottom: a record enters the index when all that it stores is in
the index already. A record may have several definitions, and the one that is bound may change
from round to round. As long as all definitions of a record that lies on a cycle store one that
does (`TranslationUnit.CyclesAgree`), none of them is ever bound, so what the index lists lies on
no cycle (`GroundedIndex`). The last run then lays its structures out over such records only, and
following what they store comes to an end.

Three recursions carry this: over the records that a record stores, over the records lifted out
of one another in one group, and over the typedefs that stand for one another.
-/

namespace Interop

/-! ## Containment among symbols -/

namespace SymbolBody

/-- The names of the declarations that a structure stores. -/
def stored : SymbolBody → List String
  | .record _ _ fields => fields.filterMap (·.type.embedded?)
  | .wrapper _ type => type.embedded?.toList
  | .enumeration _ _ | .delegate _ | .function _ _ _ => []

/-- Whether a declaration is a structure: a record or the wrapper of a typedef. -/
def isStructure : SymbolBody → Bool
  | .record _ _ _ | .wrapper _ _ => true
  | .enumeration _ _ | .delegate _ | .function _ _ _ => false

end SymbolBody

/-- Among some symbols, a structure is stored by another one: in a field or as the value of a
wrapper, itself or as the element of an array. -/
def Contains (symbols : List BindingSymbol) (whole part : BindingSymbol) : Prop :=
  part ∈ symbols ∧ part.body.isStructure = true ∧
    ∃ name ∈ whole.body.stored, part.emittedName = (ManagedType.named name).source

/-- The named records that the type of a member stores. -/
def RecordMember.embeds : RecordMember → List String
  | .field declaration _ => declaration.type.embeds
  | .anonymous _ _ => []

/-- A record definition stores a named record: in a field, or in a record lifted out of it. -/
inductive Declaration.Holds : Declaration → String → Prop
  | field {record declaration : Declaration} {source : FieldRecord} {name : String}
      (member : .field declaration source ∈ record.members)
      (stored : name ∈ declaration.type.embeds) : Holds record name
  | nested {record nested : Declaration} {member : RecordMember} {name : String}
      (mem : member ∈ record.members) (lifted : member.nested? = some nested)
      (inner : Holds nested name) : Holds record name

namespace Declaration

end Declaration

namespace TranslationUnit

variable (units : List TranslationUnit)

/-- The bound definition of a record stores another record. -/
def HoldsByName (part whole : String) : Prop :=
  ∃ declaration, (.struct, declaration) ∈ agenda units ∧ declaration.typeName? = some whole ∧
    declaration.Holds part

/-- The records that following what records store leads to from a record. -/
def reachedFrom (name : String) : Set String :=
  {part | Relation.TransGen (HoldsByName units) part name}

/-- Following what records store leads from a record back to it. -/
def LiesOnCycle (name : String) : Prop := name ∈ reachedFrom units name

/-- All bound definitions of a record that lies on a cycle store a record that lies on one. -/
def CyclesAgree : Prop :=
  ∀ declaration name, (.struct, declaration) ∈ agenda units → declaration.typeName? = some name →
    LiesOnCycle units name → ∃ part, declaration.Holds part ∧ LiesOnCycle units part

/-- The integer types of enumerations store no records. -/
def EnumsStoreNoRecord : Prop :=
  ∀ type ∈ types units, ∀ integer ∈ type.enumInteger?, integer.embeds = []

instance : Decidable (EnumsStoreNoRecord units) :=
  inferInstanceAs (Decidable (∀ type ∈ types units, ∀ integer ∈ type.enumInteger?,
    integer.embeds = []))

variable {units}

theorem EnumsStoreNoRecord.embeds_eq_nil (h : EnumsStoreNoRecord units) {type : NativeType}
    (htype : type ∈ types units) {name : Option String} {integer : NativeType}
    (hkind : type.kind = .enumeration name integer) : integer.embeds = [] :=
  h type htype integer (by rw [Option.mem_def, NativeType.enumInteger?, hkind])

end TranslationUnit

/-- No record of an index lies on a cycle, and no record that its typedefs store. -/
structure GroundedIndex (units : List TranslationUnit) (index : SymbolIndex) : Prop where
  records : ∀ name ∈ index.records, ¬ TranslationUnit.LiesOnCycle units name
  aliases : ∀ name ∈ index.aliases, ∃ declaration target,
    (.typedef, declaration) ∈ TranslationUnit.agenda units ∧ declaration.spelling = name ∧
      declaration.typedefTarget? = some target ∧
      ∀ stored ∈ target.embeds, ¬ TranslationUnit.LiesOnCycle units stored

namespace GroundedIndex

open TranslationUnit

variable {units : List TranslationUnit} {index : SymbolIndex} {mapper : Mapper}

theorem empty : GroundedIndex units ∅ :=
  ⟨fun name hname => absurd hname (NameSet.not_mem_empty name),
    fun name hname => absurd hname (NameSet.not_mem_empty name)⟩

/-- A mapped type stores no record that lies on a cycle. -/
theorem of_maps (h : GroundedIndex units mapper.index) (agree : TypedefsAgree units)
    (numbers : EnumsStoreNoRecord units) {type : NativeType} {position : Position}
    {scope : MapScope} {mapped : ManagedType} (hmaps : mapper.Maps type position scope mapped)
    (inline : position ≠ .parameter) (hparts : type.parts ⊆ types units) :
    ∀ stored ∈ type.embeds, ¬ LiesOnCycle units stored := by
  refine hmaps.forall_embeds inline h.records ?_ ?_
  · intro part hpart name underlying hkind hbound
    obtain ⟨declaration, target, hwork, hname, htarget, hgrounded⟩ := h.aliases name hbound
    rw [agree.target_eq (hparts hpart) hkind hwork hname htarget] at hgrounded
    exact hgrounded
  · intro part hpart name integer hkind
    exact numbers.embeds_eq_nil (hparts hpart) hkind

theorem ofField_ne_parameter (inUnion : Bool) : Position.ofField inUnion ≠ .parameter := by
  cases inUnion <;> nofun

/-- A lowered record stores no record that lies on a cycle. -/
theorem of_lowerRecordAs (h : GroundedIndex units mapper.index) (agree : TypedefsAgree units)
    (numbers : EnumsStoreNoRecord units) {record : Declaration} {stored : String}
    (hholds : record.Holds stored) {name : String} {group : SymbolGroup}
    (hlower : mapper.lowerRecordAs record name = .ok group)
    (htypes : record.types ⊆ types units) : ¬ LiesOnCycle units stored := by
  induction hholds generalizing name group with
  | @field record declaration source stored member hstored =>
      obtain ⟨members, hmembers, -⟩ := Mapper.lowerRecordAs_eq_ok_iff.mp hlower
      obtain ⟨lowered, hlowered, hlowers⟩ := exists_right_of_mem hmembers member
      have hparts : declaration.type.parts ⊆ types units :=
        List.Subset.trans (Declaration.parts_field member) htypes
      cases hlowers with
      | field _ mapped | declared _ _ mapped | shared _ mapped =>
          exact h.of_maps agree numbers (Mapper.maps_of_map mapped) (ofField_ne_parameter _)
            hparts stored hstored
  | @nested record nested member stored mem lifted _ ih =>
      obtain ⟨members, hmembers, -⟩ := Mapper.lowerRecordAs_eq_ok_iff.mp hlower
      obtain ⟨lowered, hlowered, hlowers⟩ := exists_right_of_mem hmembers mem
      have hnested : nested.types ⊆ types units :=
        List.Subset.trans (Declaration.types_nested mem lifted) htypes
      cases hlowers with
      | anonymous hoists =>
          cases lifted
          exact ih hoists.1 hnested
      | declared _ hoists =>
          cases lifted
          exact ih hoists.1 hnested
      | field | shared => cases lifted

/-- A run discovers a grounded index when it consults one. -/
theorem discover {options : BindingOptions} (h : GroundedIndex units index)
    (cycles : CyclesAgree units) (agree : TypedefsAgree units)
    (numbers : EnumsStoreNoRecord units) : GroundedIndex units (options.discover units index) := by
  have haccounts := options.accounts_run units index
  constructor
  · intro name hname
    have hlisted : name ∈ (options.discover units index).names .struct := hname
    obtain ⟨group, -, declaration, hwork, hlowers, hnative, -⟩ :=
      haccounts.exists_lowered_of_mem_names hlisted
    intro hcycle
    obtain ⟨stored, hholds, hinside⟩ := cycles _ _ hwork hnative hcycle
    cases hlowers with
    | record _ lowered =>
        exact h.of_lowerRecordAs agree numbers hholds lowered (types_of_mem_agenda hwork) hinside
  · intro name hname
    have hlisted : name ∈ (options.discover units index).names .typedef := hname
    obtain ⟨group, -, declaration, hwork, hlowers, hnative, -⟩ :=
      haccounts.exists_lowered_of_mem_names hlisted
    cases hlowers with
    | @delegate _ target _ _ targeted _ function _ =>
        refine ⟨declaration, target, hwork, Option.some.inj hnative, targeted, ?_⟩
        rw [NativeType.embeds_of_signature? function]
        nofun
    | @wrapper _ target _ targeted _ _ mapped =>
        refine ⟨declaration, target, hwork, Option.some.inj hnative, targeted, ?_⟩
        exact h.of_maps agree numbers mapped nofun (parts_of_typedefTarget? hwork targeted)

end GroundedIndex

/-! ## The last run -/

namespace BindingRun.Accounts

open TranslationUnit

variable {options : BindingOptions} {units : List TranslationUnit} {index : SymbolIndex}
  {run : BindingRun}

theorem kind_ne_function_of_isStructure (h : Accounts options index (agenda units) run)
    {symbol : BindingSymbol} (hsymbol : symbol ∈ run.symbols)
    (hbody : symbol.body.isStructure = true) : symbol.kind ≠ .function := by
  obtain ⟨group, hgroup, hin⟩ := List.mem_flatMap.mp hsymbol
  obtain ⟨kind, declaration, -, hlowers⟩ := h.lowered group hgroup
  rw [hlowers.kind_eq hin]
  cases hlowers with
  | record | delegate | wrapper | enumeration => nofun
  | function =>
      cases List.mem_singleton.mp hin
      cases hbody

/-- Symbols that are not functions and are emitted under one name are the same. -/
theorem eq_of_emittedName_eq (h : Accounts options index (agenda units) run)
    {first second : BindingSymbol} (hfirst : first ∈ run.symbols) (hsecond : second ∈ run.symbols)
    (hkind : first.kind ≠ .function) (hkind' : second.kind ≠ .function)
    (hname : first.emittedName = second.emittedName) : first = second :=
  List.inj_on_of_nodup_map h.nodup_emittedName
    (List.mem_filter.mpr ⟨hfirst, by simpa using hkind⟩)
    (List.mem_filter.mpr ⟨hsecond, by simpa using hkind'⟩) hname

end BindingRun.Accounts

namespace BindingOptions

open TranslationUnit

variable (options : BindingOptions) (units : List TranslationUnit)

end BindingOptions

end Interop
