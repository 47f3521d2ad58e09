import Interop.Proofs.Lowering.Placement
import Interop.Proofs.Lowering.Simple
import Interop.Proofs.Mapping.Decay

/-!
# Flexible array members

An array without a length takes no storage in the record that ends with it, and no managed
structure can be laid out like that. A field of such a type is refused, and so the record with it,
unless the run binds a typedef on the way to the array. The field is then one of the wrapper of
that typedef, which holds an address (`Mapper.refusesFlexible_iff`). The layout check does not
notice, since it is left out when a member has no layout.
-/

namespace Interop

/-- Whether a type is an array without a length. -/
def NativeType.isOpenArray (type : NativeType) : Bool :=
  match type.kind with
  | .openArray _ => true
  | _ => false

theorem NativeType.isArray_of_isOpenArray {type : NativeType} (h : type.isOpenArray = true) :
    type.isArray = true := by
  obtain ⟨kind, layout, isConst⟩ := type
  cases kind with
  | openArray element => rfl
  | _ => cases h

theorem Position.isField_ofField (inUnion : Bool) : (Position.ofField inUnion).isField = true := by
  cases inUnion with
  | true => rfl
  | false => rfl

/-- A field, not one of a few bits, whose typedefs lead to an array without a length. -/
structure Declaration.IsFlexible (field : Declaration) : Prop where
  isField : field.kind = .field
  whole : field.bitWidth = none
  openArray : field.type.resolve.isOpenArray = true

namespace Mapper

variable {mapper : Mapper} {type : NativeType} {position : Position} {scope : MapScope}

theorem map_field_of_isOpenArray (openArray : type.isOpenArray = true)
    (isField : position.isField = true) :
    mapper.map type position scope = .error .flexibleArrayMember := by
  obtain ⟨kind, layout, isConst⟩ := type
  cases kind with
  | openArray element => rw [map, if_pos isField]
  | _ => cases openArray

/-- A field whose typedefs lead to an array without a length stands for its outermost typedef that
the run binds. -/
theorem map_field_of_isOpenArray_resolve (openArray : type.resolve.isOpenArray = true)
    (isField : position.isField = true) :
    mapper.map type position scope =
      (mapper.boundTypedef? type).elim (.error .flexibleArrayMember)
        fun name => mapper.reference name "wrapper" position := by
  have hobject : type.signature? = none :=
    NativeType.signature?_of_isArray_resolve (NativeType.isArray_of_isOpenArray openArray)
  rw [map_of_typedefs fun _ => hobject, map_field_of_isOpenArray openArray isField]

end Mapper

namespace RecordMember

variable {mapper : Mapper} {context : RecordContext} {field : Declaration} {source : FieldRecord}
  {lowered : LoweredMember}

/-- A lowered field keeps its name and has the type that its own is mapped to. -/
theorem Lowers.binding_eq (h : Lowers mapper context (.field field source) lowered) :
    ∃ scope type, mapper.map field.type (.ofField context.isUnion) scope = .ok type ∧
      lowered.binding = ⟨context.fieldName field.spelling, field.spelling, type⟩ := by
  cases h with
  | field _ mapped | declared _ _ mapped | shared _ mapped => exact ⟨_, _, mapped, rfl⟩

end RecordMember

/-- The fields among the children of a record are members of it. -/
theorem Declaration.exists_mem_members {record field : Declaration}
    (isField : field.kind = .field) (h : field ∈ record.children) :
    ∃ source, .field field source ∈ record.members := by
  have hfiltered : field ∈ record.children.filter isMember :=
    List.mem_filter.mpr ⟨h, by simp [isMember, isField]⟩
  obtain ⟨member, hmember, hstands⟩ :=
    exists_right_of_mem (RecordMember.standsFor_ofChildren 0 none none _) hfiltered
  cases member with
  | anonymous number nested =>
      obtain ⟨rfl, hkind⟩ := hstands
      exact absurd isField hkind
  | field declaration source =>
      obtain ⟨rfl, -⟩ := hstands
      exact ⟨source, hmember⟩

/-- A structure has a field for a field of the header, of a given type. -/
def SymbolGroup.Binds (group : SymbolGroup) (context : RecordContext) (field : Declaration)
    (type : ManagedType) : Prop :=
  ∃ isUnion pack fields, group.main.body = .record isUnion pack fields ∧
    ⟨context.fieldName field.spelling, field.spelling, type⟩ ∈ fields

namespace Mapper

variable {mapper : Mapper} {record field : Declaration} {name : String} {group : SymbolGroup}

/-- A lowered record has a field for each field of the header, of the type that its own is mapped
to. -/
theorem exists_binds_of_lowerRecordAs (h : mapper.lowerRecordAs record name = .ok group)
    (isField : field.kind = .field) (hfield : field ∈ record.children) :
    ∃ scope type, mapper.map field.type (.ofField (record.context name).isUnion) scope =
        .ok type ∧ group.Binds (record.context name) field type := by
  obtain ⟨members, hmembers, hclose⟩ := lowerRecordAs_eq_ok_iff.mp h
  obtain ⟨-, pack, -, rfl⟩ := RecordContext.close_eq_ok_iff.mp hclose
  obtain ⟨source, hmember⟩ := Declaration.exists_mem_members isField hfield
  obtain ⟨lowered, hlowered, hlowers⟩ := exists_right_of_mem hmembers hmember
  obtain ⟨scope, type, hmap, hbinding⟩ := hlowers.binding_eq
  refine ⟨scope, type, hmap, _, _, _, rfl, ?_⟩
  rw [← hbinding]
  exact List.mem_map_of_mem hlowered

/-- A record with a flexible array member is lowered only if the run binds a typedef on the way to
the array; the member is then one of the wrapper of the outermost. -/
theorem exists_boundTypedef_of_lowerRecordAs (flexible : field.IsFlexible)
    (hfield : field ∈ record.children) (h : mapper.lowerRecordAs record name = .ok group) :
    ∃ bound, mapper.boundTypedef? field.type = some bound ∧
      group.Binds (record.context name) field (.named bound) := by
  obtain ⟨scope, type, hmap, hbinds⟩ := exists_binds_of_lowerRecordAs h flexible.isField hfield
  rw [map_field_of_isOpenArray_resolve flexible.openArray (Position.isField_ofField _)] at hmap
  cases hbound : mapper.boundTypedef? field.type with
  | none =>
      rw [hbound] at hmap
      cases hmap
  | some bound =>
      rw [hbound] at hmap
      obtain ⟨-, rfl⟩ := reference_eq_ok_iff.mp hmap
      exact ⟨bound, rfl, hbinds⟩

/-- A structure of fields without nameless records is lowered if each of them is mapped. -/
theorem exists_lowerRecordAs_ofStruct {fields : List Declaration} (named : name ≠ "")
    (inhabited : fields ≠ [])
    (whole : ∀ field ∈ fields,
      field.kind = .field ∧ field.type.usesNamelessRecord = false ∧ field.bitWidth = none)
    (mapped : ∀ field ∈ fields,
      ∃ type, mapper.map field.type .field ⟨name, field.spelling, none⟩ = .ok type) :
    ∃ group, mapper.lowerRecordAs (.ofStruct name fields) name = .ok group := by
  have hmembers : (Declaration.ofStruct name fields).members =
      fields.map fun field => .field field .none :=
    RecordMember.ofChildren_of_fields fun field hfield =>
      ⟨(whole field hfield).1, (whole field hfield).2.1⟩
  have hlayout : (Declaration.ofStruct name fields).type.layout = none := by
    simp [Declaration.ofStruct, Declaration.ofType, named, NativeType.record, NativeType.ofKind]
  have hlowers : ∀ member ∈ (Declaration.ofStruct name fields).members,
      ∃ lowered, RecordMember.Lowers mapper ((Declaration.ofStruct name fields).context name)
        member lowered := by
    rw [hmembers]
    intro member hmember
    obtain ⟨field, hfield, rfl⟩ := List.mem_map.mp hmember
    obtain ⟨type, hmap⟩ := mapped field hfield
    exact ⟨_, .field (whole field hfield).2.2 hmap⟩
  obtain ⟨lowered, hlowered⟩ := RecordMember.exists_lowers_iff.mpr hlowers
  have hne : lowered ≠ [] := by
    rintro rfl
    rw [hmembers] at hlowered
    exact inhabited (List.map_eq_nil_iff.mp (List.forall₂_nil_right_iff.mp hlowered))
  refine ⟨_, lowerRecordAs_eq_ok_iff.mpr ⟨lowered, hlowered, RecordContext.close_eq_ok_iff.mpr
    ⟨hne, none, ?_, rfl⟩⟩⟩
  simp only [RecordContext.packing, hlayout]

/-- A flexible array member that stands for a bound typedef can be the only field of a
structure. -/
theorem exists_lowerRecord_of_boundTypedef (flexible : field.IsFlexible) {bound : String}
    (hbound : mapper.boundTypedef? field.type = some bound) :
    ∃ group, mapper.lowerRecord (.ofStruct "Packet" [field]) = .ok group := by
  have hnamed : field.type.usesNamelessRecord = false := by
    unfold boundTypedef? NativeType.typedefNames at hbound
    split at hbound
    · rename_i heq
      rw [heq]
      rfl
    · cases hbound
  apply exists_lowerRecordAs_ofStruct (by decide) (List.cons_ne_nil _ _)
  · intro other hother
    cases List.mem_singleton.mp hother
    exact ⟨flexible.isField, hnamed, flexible.whole⟩
  · intro other hother
    cases List.mem_singleton.mp hother
    refine ⟨.named bound, ?_⟩
    rw [map_field_of_isOpenArray_resolve flexible.openArray rfl, hbound]
    exact reference_of_ne_unionField nofun

/-- A flexible array member makes every record with it fail exactly if the run binds no typedef on
the way to the array. A record that does not fail, lifted out of another or not, has the member as
one of the wrapper of the outermost typedef that the run binds. -/
theorem refusesFlexible_iff (flexible : field.IsFlexible) :
    ((∀ record : Declaration, field ∈ record.children →
        ∃ error, mapper.lowerRecord record = .error error) ↔
      ∀ name ∈ field.type.typedefNames, name ∉ mapper.index.aliases) ∧
    ∀ (record : Declaration) (name : String) (group : SymbolGroup), field ∈ record.children →
      mapper.lowerRecordAs record name = .ok group →
        ∃ bound, mapper.boundTypedef? field.type = some bound ∧
          group.Binds (record.context name) field (.named bound) := by
  refine ⟨?_, fun record name group => exists_boundTypedef_of_lowerRecordAs flexible⟩
  rw [← boundTypedef?_eq_none_iff]
  constructor
  · intro hrefuses
    by_contra hsome
    obtain ⟨bound, hbound⟩ := Option.ne_none_iff_exists'.mp hsome
    obtain ⟨group, hlowered⟩ := exists_lowerRecord_of_boundTypedef flexible hbound
    obtain ⟨error, herror⟩ := hrefuses (.ofStruct "Packet" [field]) List.mem_cons_self
    cases hlowered.symm.trans herror
  · intro hnone record hfield
    cases hlowered : mapper.lowerRecord record with
    | error error => exact ⟨error, rfl⟩
    | ok group =>
        rw [lowerRecord] at hlowered
        split at hlowered
        · obtain ⟨bound, hbound, -⟩ :=
            exists_boundTypedef_of_lowerRecordAs flexible hfield hlowered
          cases hnone.symm.trans hbound
        · cases hlowered

/-- The items of a packet, an array without a length by name. -/
def packetItems : Declaration := .ofField "items" (.ofAlias "tail" (.openArray .int))

/-- A structure of a number and the items after it. -/
def openPacket : Declaration := .ofStruct "Packet" [.ofField "count" .int, packetItems]

theorem isFlexible_packetItems : packetItems.IsFlexible := ⟨rfl, rfl, rfl⟩

theorem packetItems_mem_children : packetItems ∈ openPacket.children :=
  List.mem_cons_of_mem _ List.mem_cons_self

theorem exists_lowerRecordAs_openPacket :
    ∃ group, (ofAlias "tail").lowerRecordAs openPacket "Packet" = .ok group := by
  apply exists_lowerRecordAs_ofStruct (by decide) (List.cons_ne_nil _ _) (by decide)
  intro field hfield
  rcases List.mem_pair.mp hfield with rfl | rfl
  · exact ⟨_, Maps.map_eq (.scalar rfl)⟩
  · exact ⟨_, Maps.map_eq (.aliased (by decide) nofun)⟩

theorem refusesFlexible_iff_packet :
    packetItems.IsFlexible ∧ packetItems ∈ openPacket.children ∧
    (∃ error, (Mapper.mk ∅ true).lowerRecord openPacket = .error error) ∧
    ∃ group, (ofAlias "tail").lowerRecordAs openPacket "Packet" = .ok group ∧
      group.Binds (openPacket.context "Packet") packetItems (.named "tail") := by
  obtain ⟨group, hgroup⟩ := exists_lowerRecordAs_openPacket
  refine ⟨isFlexible_packetItems, packetItems_mem_children, ?_, group, hgroup, ?_⟩
  · apply (refusesFlexible_iff isFlexible_packetItems).1.mpr _ openPacket packetItems_mem_children
    intro name _
    exact NameSet.not_mem_empty name
  · obtain ⟨bound, hbound, hbinds⟩ :=
      (refusesFlexible_iff isFlexible_packetItems).2 _ _ _ packetItems_mem_children hgroup
    have htail : (ofAlias "tail").boundTypedef? packetItems.type = some "tail" := by decide
    cases hbound.symm.trans htail
    exact hbinds

/-- A run that binds the name of a flexible array member's type binds the record. -/
theorem not_refusesFlexible_packet :
    ¬ ∀ (mapper : Mapper) (record field : Declaration), field.IsFlexible →
      field ∈ record.children → ∃ error, mapper.lowerRecord record = .error error := by
  intro h
  obtain ⟨group, hgroup⟩ := exists_lowerRecordAs_openPacket
  obtain ⟨error, herror⟩ :=
    h (ofAlias "tail") openPacket packetItems isFlexible_packetItems packetItems_mem_children
  cases hgroup.symm.trans herror

end Mapper

end Interop
