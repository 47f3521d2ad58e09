import Interop.Proofs.Lowering.Groups

/-!
# Simple records

A simple record is a structure of the header itself whose layout is not known and whose members
are fields of three types: 32-bit integers, pointers to named records and named records by value.
A pointer never keeps a record from being lowered, so a simple record is lowered just when the
index has the records that it holds by value (`Mapper.exists_lowers_iff_of_simple`). Nothing is
lifted out of it and no delegate is declared beside it, so it declares its own name and no other.
-/

namespace Interop

/-! ## Fields -/

namespace NativeType

/-- The record that a type is, by its name. -/
def heldRecord? (type : NativeType) : Option String :=
  match type.kind with
  | .record name _ => name
  | _ => none

/-- Whether a type is a 32-bit integer, a pointer to a named record or a named record. -/
def isSimple : NativeType → Bool
  | ⟨.integer bits _, _, _⟩ => bits = 32
  | ⟨.pointer ⟨.record (some _) _, _, _⟩, _, _⟩ => true
  | ⟨.record (some _) _, _, _⟩ => true
  | _ => false

theorem usesNamelessRecord_of_isSimple {type : NativeType} (h : type.isSimple = true) :
    type.usesNamelessRecord = false := by
  fun_cases isSimple type with
  | case1 | case2 | case3 => rfl
  | case4 => simp_all [isSimple]

end NativeType

namespace Mapper

variable {mapper : Mapper} {type : NativeType} {scope : MapScope} {mapped : ManagedType}

/-- A simple type in a field is mapped just when the index has the record that it is. -/
theorem exists_map_iff_of_isSimple (h : type.isSimple = true) (scope : MapScope) :
    (∃ mapped, mapper.map type .field scope = .ok mapped) ↔
      ∀ held ∈ type.heldRecord?, held ∈ mapper.index.records := by
  simp only [map_eq_ok_iff]
  fun_cases NativeType.isSimple type with
  | case1 bits signed layout isConst =>
      refine ⟨fun _ => nofun, fun _ => ?_⟩
      cases of_decide_eq_true h
      cases signed with
      | true => exact ⟨_, .scalar rfl⟩
      | false => exact ⟨_, .scalar rfl⟩
  | case2 name isUnion layout isConst pointerLayout pointerConst =>
      refine ⟨fun _ => nofun, fun _ => ⟨_, .address rfl ?_⟩⟩
      simp [NativeType.isConstChar, NativeType.charConst?]
  | case3 name isUnion layout isConst =>
      constructor
      · rintro ⟨mapped, hmaps⟩ held ⟨⟩
        cases hmaps with
        | scalar fixed => cases fixed
        | record bound => exact bound
      · intro hheld
        exact ⟨_, .record (hheld name rfl) nofun⟩
  | case4 => simp_all [NativeType.isSimple]

theorem delegates_eq_nil_of_isSimple (h : type.isSimple = true)
    (hmap : mapper.map type .field scope = .ok mapped) : mapped.delegates = [] := by
  have hmaps := maps_of_map hmap
  fun_cases NativeType.isSimple type with
  | case1 =>
      cases hmaps with
      | scalar fixed =>
          obtain ⟨_, -, rfl⟩ := Option.map_eq_some_iff.mp fixed
          rfl
  | case2 =>
      cases hmaps with
      | scalar fixed => cases fixed
      | callback found | delegate found | functionAddress found => cases found
      | string | address => rfl
  | case3 =>
      cases hmaps with
      | scalar fixed => cases fixed
      | record => rfl
  | case4 => simp_all [NativeType.isSimple]

end Mapper

/-! ## Records -/

namespace Declaration

/-- The definition of a structure of unknown layout whose members are fields of simple types, at
least one of them. -/
structure IsSimpleRecord (record : Declaration) : Prop where
  struct : record.kind = .struct
  isDefinition : record.isDefinition = true
  inMainFile : record.location.inMainFile = true
  named : record.typeName?.isSome = true
  unmeasured : record.type.layout = none
  inhabited : record.children.isEmpty = false
  fields : ∀ field ∈ record.children,
    field.kind = .field ∧ field.bitWidth = none ∧ field.type.isSimple = true

instance (record : Declaration) : Decidable record.IsSimpleRecord :=
  decidable_of_iff (record.kind = .struct ∧ record.isDefinition = true ∧
      record.location.inMainFile = true ∧ record.typeName?.isSome = true ∧
      record.type.layout = none ∧ record.children.isEmpty = false ∧
      ∀ field ∈ record.children,
        field.kind = .field ∧ field.bitWidth = none ∧ field.type.isSimple = true)
    ⟨fun ⟨struct, isDefinition, inMainFile, named, unmeasured, inhabited, fields⟩ =>
      ⟨struct, isDefinition, inMainFile, named, unmeasured, inhabited, fields⟩,
    fun ⟨struct, isDefinition, inMainFile, named, unmeasured, inhabited, fields⟩ =>
      ⟨struct, isDefinition, inMainFile, named, unmeasured, inhabited, fields⟩⟩

/-- The records that a record holds by value. -/
def held (record : Declaration) : List String :=
  record.children.filterMap fun field => field.type.heldRecord?

theorem mem_held_iff {record : Declaration} {name : String} :
    name ∈ record.held ↔ ∃ field ∈ record.children, name ∈ field.type.heldRecord? :=
  List.mem_filterMap

end Declaration

namespace RecordMember

variable {mapper : Mapper} {context : RecordContext} {field : Declaration}
  {lowered : LoweredMember}

/-- Children that are fields without nameless records are the members. -/
theorem ofChildren_of_fields {number : Nat} {pending : Option Declaration} {last : Option String}
    {children : List Declaration}
    (h : ∀ child ∈ children, child.kind = .field ∧ child.type.usesNamelessRecord = false) :
    ofChildren number pending last children = children.map fun child => .field child .none := by
  induction children with
  | nil => rfl
  | cons child children ih =>
      obtain ⟨hkind, hnamed⟩ := h child List.mem_cons_self
      rw [ofChildren, hkind, hnamed, ih fun other hother => h other (List.mem_cons_of_mem _ hother)]
      rfl

theorem lowers_field_iff :
    Lowers mapper context (.field field .none) lowered ↔
      field.bitWidth = none ∧ ∃ type, mapper.map field.type (.ofField context.isUnion)
          ⟨context.name, field.spelling, none⟩ = .ok type ∧
        lowered = ⟨[], ⟨context.fieldName field.spelling, field.spelling, type⟩,
          field.type.layout, field.fieldOffsetBits⟩ := by
  constructor
  · rintro (_ | ⟨whole, mapped⟩)
    exact ⟨whole, _, mapped, rfl⟩
  · rintro ⟨whole, type, mapped, rfl⟩
    exact .field whole mapped

/-- A list of members is lowered when each of them is. -/
theorem exists_lowers_iff {members : List RecordMember} :
    (∃ all, List.Forall₂ (Lowers mapper context) members all) ↔
      ∀ member ∈ members, ∃ lowered, Lowers mapper context member lowered := by
  constructor
  · rintro ⟨all, hall⟩ member hmember
    obtain ⟨lowered, -, hlowers⟩ := exists_right_of_mem hall hmember
    exact ⟨lowered, hlowers⟩
  · intro h
    induction members with
    | nil => exact ⟨[], .nil⟩
    | cons member members ih =>
        obtain ⟨lowered, hlowers⟩ := h member List.mem_cons_self
        obtain ⟨all, hall⟩ := ih fun other hother => h other (List.mem_cons_of_mem _ hother)
        exact ⟨lowered :: all, .cons hlowers hall⟩

end RecordMember

namespace Declaration.IsSimpleRecord

variable {mapper : Mapper} {record : Declaration} {name : String} {lowered : LoweredMember}
  {members : List LoweredMember}

theorem members_eq (h : record.IsSimpleRecord) :
    record.members = record.children.map fun field => .field field .none :=
  RecordMember.ofChildren_of_fields fun field hfield =>
    ⟨(h.fields field hfield).1,
      NativeType.usesNamelessRecord_of_isSimple (h.fields field hfield).2.2⟩

theorem position_eq (h : record.IsSimpleRecord) :
    Position.ofField (record.context name).isUnion = .field := by
  simp [context, h.struct, Position.ofField]

theorem packing_eq (h : record.IsSimpleRecord) :
    (record.context name).packing record members = .ok none := by
  simp [RecordContext.packing, h.unmeasured]

/-- A member of a simple record is one of its fields, with a type that declares no delegate. -/
theorem of_lowers (h : record.IsSimpleRecord) {member : RecordMember}
    (hmember : member ∈ record.members)
    (hlowers : RecordMember.Lowers mapper (record.context name) member lowered) :
    lowered.hoisted = [] ∧ lowered.binding.type.delegates = [] := by
  rw [h.members_eq] at hmember
  obtain ⟨field, hfield, rfl⟩ := List.mem_map.mp hmember
  obtain ⟨-, type, hmap, rfl⟩ := RecordMember.lowers_field_iff.mp hlowers
  rw [h.position_eq] at hmap
  exact ⟨rfl, Mapper.delegates_eq_nil_of_isSimple (h.fields field hfield).2.2 hmap⟩

/-- The members are lowered when the index has the records among them. -/
theorem exists_lowers_members_iff (h : record.IsSimpleRecord) (name : String) :
    (∃ members, List.Forall₂ (RecordMember.Lowers mapper (record.context name)) record.members
        members) ↔
      ∀ held ∈ record.held, held ∈ mapper.index.records := by
  have hfield : ∀ field ∈ record.children,
      (∃ lowered, RecordMember.Lowers mapper (record.context name) (.field field .none) lowered) ↔
        ∀ held ∈ field.type.heldRecord?, held ∈ mapper.index.records := by
    intro field hfield
    obtain ⟨-, hwhole, hsimple⟩ := h.fields field hfield
    rw [← Mapper.exists_map_iff_of_isSimple hsimple
      ⟨(record.context name).name, field.spelling, none⟩]
    simp only [RecordMember.lowers_field_iff, h.position_eq, hwhole, true_and]
    constructor
    · rintro ⟨-, type, hmap, -⟩
      exact ⟨type, hmap⟩
    · rintro ⟨type, hmap⟩
      exact ⟨_, type, hmap, rfl⟩
  rw [RecordMember.exists_lowers_iff, h.members_eq, List.forall_mem_map]
  constructor
  · intro hall held hheld
    obtain ⟨field, hmem, hfieldHeld⟩ := mem_held_iff.mp hheld
    exact (hfield field hmem).mp (hall field hmem) held hfieldHeld
  · intro hall field hmem
    exact (hfield field hmem).mpr fun held hheld =>
      hall held (mem_held_iff.mpr ⟨field, hmem, hheld⟩)

end Declaration.IsSimpleRecord

namespace Mapper

variable {mapper : Mapper} {naming : NamingPolicy} {record : Declaration} {group : SymbolGroup}

/-- A simple record is lowered when the index has the records that it holds by value. -/
theorem exists_lowers_iff_of_simple (h : record.IsSimpleRecord) :
    (∃ group, mapper.Lowers naming .struct record group) ↔
      ∀ held ∈ record.held, held ∈ mapper.index.records := by
  obtain ⟨name, hname⟩ := Option.isSome_iff_exists.mp h.named
  rw [← h.exists_lowers_members_iff name]
  constructor
  · rintro ⟨group, ⟨hnamed, hlowered⟩⟩
    cases hname.symm.trans hnamed
    obtain ⟨members, hmembers, -⟩ := lowerRecordAs_eq_ok_iff.mp hlowered
    exact ⟨members, hmembers⟩
  · rintro ⟨members, hmembers⟩
    refine ⟨_, .record hname (lowerRecordAs_eq_ok_iff.mpr ⟨members, hmembers,
      RecordContext.close_eq_ok_iff.mpr ⟨?_, none, h.packing_eq, rfl⟩⟩)⟩
    rintro rfl
    have hempty := List.forall₂_nil_right_iff.mp hmembers
    rw [h.members_eq, List.map_eq_nil_iff, ← List.isEmpty_iff, h.inhabited] at hempty
    cases hempty

/-- A simple record becomes one symbol, which declares its own name only. -/
theorem symbols_of_lowers_simple (h : record.IsSimpleRecord)
    (hlowers : mapper.Lowers naming .struct record group) :
    group.symbols = [group.main] ∧
      group.declaredNames = [Identifier.escape group.main.nativeName] := by
  have hemitted := hlowers.emittedName_eq nofun
  obtain ⟨_, hlowered⟩ := hlowers
  obtain ⟨members, hmembers, hclose⟩ := lowerRecordAs_eq_ok_iff.mp hlowered
  obtain ⟨-, pack, -, rfl⟩ := RecordContext.close_eq_ok_iff.mp hclose
  have hbare : ∀ lowered ∈ members, lowered.hoisted = [] ∧ lowered.binding.type.delegates = [] := by
    intro lowered hlowered
    obtain ⟨member, hmember, hmemberLowers⟩ := exists_left_of_mem hmembers hlowered
    exact h.of_lowers hmember hmemberLowers
  have hhoisted : members.flatMap (·.hoisted) = [] :=
    List.flatMap_eq_nil_iff.mpr fun lowered hlowered => (hbare lowered hlowered).1
  have hdelegates : (members.map (·.binding)).flatMap (·.type.delegates) = [] :=
    List.flatMap_eq_nil_iff.mpr (List.forall_mem_map.mpr fun lowered hlowered =>
      (hbare lowered hlowered).2)
  rw [← hemitted]
  simp [SymbolGroup.symbols, SymbolGroup.declaredNames, SymbolGroup.delegateNames,
    RecordContext.structureOf, BindingSymbol.delegates, SymbolBody.delegates, hhoisted,
    hdelegates]

end Mapper

end Interop
