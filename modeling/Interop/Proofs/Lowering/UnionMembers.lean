import Interop.Proofs.Lowering.Growth
import Interop.Proofs.Mapping.Decay
import Mathlib.Data.List.Induction

/-!
# Members that a union refuses

A union that is not lowered names the first of its members that fails, and why. When the reason is
that the member may not overlap the others, the member lies in the union by value: it is an array,
a record or wrapper that the index does not list as free of managed references, or a nameless
record that holds one. C sources have one exception. A nameless record that a field declares is
looked at before the type of the field is, so a pointer to such a record is refused for what lies
behind it (`Mapper.refusesOverlap_iff`). The other exception there, an enumeration whose integer
type is none, cannot be written in C.
-/

namespace Interop

/-! ## Members that fail -/

namespace RecordMember

variable {mapper : Mapper} {context : RecordContext} {member : RecordMember} {error : MappingError}

/-- Why a member is not lowered. -/
inductive Fails (mapper : Mapper) (context : RecordContext) : RecordMember → MappingError → Prop
  | bits {declaration : Declaration} {source : FieldRecord} :
      Fails mapper context (.field declaration source) (.bitField declaration.spelling)
  /-- The record lifted out for the member is not lowered. -/
  | nested {member : RecordMember} {nested : Declaration} {cause : MappingError}
      (lifts : member.nested? = some nested)
      (failed : mapper.lowerRecordAs nested (context.hoistedName member.label) = .error cause) :
      Fails mapper context member (.inField member.label cause)
  /-- The record lifted out for the member holds a managed reference, in a union. -/
  | overlapping {member : RecordMember} {nested : Declaration} {group : SymbolGroup}
      {description : String} (lifts : member.nested? = some nested)
      (lowered : mapper.lowerRecordAs nested (context.hoistedName member.label) = .ok group)
      (managed : mapper.isBlittableGroup group = false) :
      Fails mapper context member (.inField member.label (.unionMember description))
  | missing {declaration : Declaration} :
      Fails mapper context (.field declaration .missing)
        (.inField declaration.spelling .anonymousType)
  | unmapped {declaration : Declaration} {source : FieldRecord} {scope : MapScope}
      {cause : MappingError}
      (failed : mapper.map declaration.type (.ofField context.isUnion) scope = .error cause) :
      Fails mapper context (.field declaration source) (.inField declaration.spelling cause)

theorem Fails.ne_unionMember (h : Fails mapper context member error) (description : String) :
    error ≠ .unionMember description := by
  cases h <;> exact nofun

theorem fails_of_hoist {nested : Declaration} (lifts : member.nested? = some nested)
    (h : hoist mapper context member.label (mapper.lowerRecordAs nested) = .error error) :
    Fails mapper context member error := by
  obtain ⟨cause, hcause, rfl⟩ := Outcome.mapError_eq_error_iff.mp h
  rcases Outcome.bind_eq_error_iff.mp hcause with hfailed | ⟨group, hlowered, hchecked⟩
  · exact .nested lifts hfailed
  · by_cases hrefused : (context.isUnion && !mapper.isBlittableGroup group) = true
    · rw [if_pos hrefused] at hchecked
      cases hchecked
      refine .overlapping lifts hlowered ?_
      simpa using ((Bool.and_eq_true _ _).mp hrefused).2
    · rw [if_neg hrefused] at hchecked
      cases hchecked

theorem fails_of_lowerField {declaration : Declaration} {source : FieldRecord}
    {hoisted : List BindingSymbol} {record : Option String}
    (h : lowerField mapper context declaration hoisted record = .error error) :
    Fails mapper context (.field declaration source) error := by
  rcases Outcome.bind_eq_error_iff.mp h with hfailed | ⟨type, -, hok⟩
  · obtain ⟨cause, hcause, rfl⟩ := Outcome.mapError_eq_error_iff.mp hfailed
    exact .unmapped hcause
  · cases hok

/-- A member that is not lowered fails for one of the reasons. -/
theorem fails_of_lowerWith
    (h : member.lowerWith mapper context (fun nested _ => mapper.lowerRecordAs nested) =
      .error error) : Fails mapper context member error := by
  cases member with
  | anonymous number record =>
      rcases Outcome.bind_eq_error_iff.mp h with hhoist | ⟨hoisted, -, hok⟩
      · exact fails_of_hoist rfl hhoist
      · cases hok
  | field declaration source =>
      simp only [lowerWith] at h
      split at h
      · cases h
        exact .bits
      · cases source with
        | none => exact fails_of_lowerField h
        | declared nested =>
            rcases Outcome.bind_eq_error_iff.mp h with hhoist | ⟨hoisted, -, hfield⟩
            · exact fails_of_hoist rfl hhoist
            · exact fails_of_lowerField hfield
        | shared first => exact fails_of_lowerField h
        | missing =>
            cases h
            exact .missing

/-- Lowering members fails with the first one that fails. -/
theorem exists_first_of_lowerAll {members : List RecordMember}
    (h : lowerAll mapper context members (fun _ _ nested _ => mapper.lowerRecordAs nested) =
      .error error) :
    ∃ before member after lowered, members = before ++ member :: after ∧
      List.Forall₂ (Lowers mapper context) before lowered ∧
      member.lowerWith mapper context (fun nested _ => mapper.lowerRecordAs nested) =
        .error error := by
  induction members with
  | nil => cases h
  | cons member members ih =>
      rw [lowerAll] at h
      rcases Outcome.bind_eq_error_iff.mp h with hfirst | ⟨first, hfirst, hrest⟩
      · exact ⟨[], member, members, [], rfl, .nil, hfirst⟩
      · rcases Outcome.bind_eq_error_iff.mp hrest with hfailed | ⟨rest, -, hok⟩
        · obtain ⟨before, other, after, lowered, rfl, hbefore, hother⟩ := ih hfailed
          exact ⟨member :: before, other, after, first :: lowered, rfl,
            .cons (lowerWith_eq_ok_iff.mp hfirst) hbefore, hother⟩
        · cases hok

end RecordMember

/-! ## Records that fail -/

/-- The layout of a record is refused for one of two reasons. -/
def MappingError.IsOfLayout (error : MappingError) : Prop :=
  (∃ align natural, error = .overAligned align natural) ∨ ∃ details, error = .layoutMismatch details

theorem MemberSlot.isOfLayout_of_placeAll {isUnion : Bool} {recordAlign start : Nat}
    {slots : List MemberSlot} {error : MappingError}
    (h : placeAll isUnion recordAlign start slots = .error error) : error.IsOfLayout := by
  induction slots generalizing start with
  | nil => cases h
  | cons slot slots ih =>
      simp only [placeAll] at h
      split at h
      · exact ih h
      · cases h
        exact .inr ⟨_, rfl⟩

theorem Layout.isOfLayout_of_pack? {layout : Layout} {isUnion : Bool} {slots : List MemberSlot}
    {error : MappingError} (h : layout.pack? isUnion slots = .error error) :
    error.IsOfLayout := by
  simp only [pack?] at h
  split at h
  · cases h
    exact .inl ⟨_, _, rfl⟩
  · rcases Outcome.bind_eq_error_iff.mp h with hplaced | ⟨taken, -, hsized⟩
    · exact MemberSlot.isOfLayout_of_placeAll hplaced
    · split at hsized
      · cases hsized
        exact .inr ⟨_, rfl⟩
      · cases hsized

/-- A record of members that are lowered fails if it has none or for its layout. -/
theorem RecordContext.eq_emptyRecord_or_isOfLayout_of_close {context : RecordContext}
    {record : Declaration} {members : List LoweredMember} {error : MappingError}
    (h : context.close record members = .error error) :
    error = .emptyRecord ∨ error.IsOfLayout := by
  cases members with
  | nil =>
      cases h
      exact .inl rfl
  | cons member members =>
      rw [close_cons] at h
      rcases Outcome.bind_eq_error_iff.mp h with hpacking | ⟨pack, -, hok⟩
      · unfold packing at hpacking
        split at hpacking
        · exact .inr (Layout.isOfLayout_of_pack? hpacking)
        · cases hpacking
      · cases hok

namespace Mapper

variable {mapper : Mapper} {record : Declaration} {name label : String} {cause : MappingError}
  {error : MappingError}

/-- A record is not lowered because of the first of its members that fails, or because of what they
make up together. -/
theorem exists_first_or_of_lowerRecordAs (h : mapper.lowerRecordAs record name = .error error) :
    (∃ before member after lowered, record.members = before ++ member :: after ∧
      List.Forall₂ (RecordMember.Lowers mapper (record.context name)) before lowered ∧
      member.lowerWith mapper (record.context name)
        (fun nested _ => mapper.lowerRecordAs nested) = .error error) ∨
      error = .emptyRecord ∨ error.IsOfLayout := by
  rw [lowerRecordAs] at h
  rcases Outcome.bind_eq_error_iff.mp h with hmembers | ⟨members, -, hclose⟩
  · exact .inl (RecordMember.exists_first_of_lowerAll hmembers)
  · exact .inr (RecordContext.eq_emptyRecord_or_isOfLayout_of_close hclose)

/-- The error of a record tells the member that it is about. -/
theorem lowerRecordAs_ne_unionMember (description : String) :
    mapper.lowerRecordAs record name ≠ .error (.unionMember description) := by
  intro h
  rcases exists_first_or_of_lowerRecordAs h with ⟨_, _, _, _, -, -, hmember⟩ | hempty | hlayout
  · exact (RecordMember.fails_of_lowerWith hmember).ne_unionMember description rfl
  · cases hempty
  · rcases hlayout with ⟨_, _, heq⟩ | ⟨_, heq⟩ <;> cases heq

/-- An error inside a field is that of the first member that fails. -/
theorem exists_first_of_lowerRecordAs
    (h : mapper.lowerRecordAs record name = .error (.inField label cause)) :
    ∃ before member after lowered, record.members = before ++ member :: after ∧
      List.Forall₂ (RecordMember.Lowers mapper (record.context name)) before lowered ∧
      member.lowerWith mapper (record.context name)
        (fun nested _ => mapper.lowerRecordAs nested) = .error (.inField label cause) := by
  rcases exists_first_or_of_lowerRecordAs h with hmember | hempty | hlayout
  · exact hmember
  · cases hempty
  · rcases hlayout with ⟨_, _, heq⟩ | ⟨_, heq⟩ <;> cases heq

/-! ## Managed references -/

/-- A type holds a managed reference, as far as the index can tell, looking into the records that
are lifted out before it. -/
inductive HoldsReference (mapper : Mapper) : List BindingSymbol → ManagedType → Prop
  | string {hoisted : List BindingSymbol} : HoldsReference mapper hoisted .string
  | text {hoisted : List BindingSymbol} {length : UInt64} :
      HoldsReference mapper hoisted (.text length)
  | array {hoisted : List BindingSymbol} {element : ManagedType} {length : UInt64} :
      HoldsReference mapper hoisted (.array element length)
  | delegate {hoisted : List BindingSymbol} {signature : Delegate} :
      HoldsReference mapper hoisted (.delegate signature)
  /-- Nothing is known of the name. -/
  | unlisted {hoisted : List BindingSymbol} {name : String} (notEnum : name ∉ mapper.index.enums)
      (notPlain : name ∉ mapper.index.blittable)
      (outside : ∀ symbol ∈ hoisted, symbol.nativeName ≠ name) :
      HoldsReference mapper hoisted (.named name)
  /-- A record lifted out with a field that holds one. -/
  | lifted {before after : List BindingSymbol} {symbol : BindingSymbol} {isUnion : Bool}
      {pack : Option UInt64} {fields : List FieldBinding} {field : FieldBinding}
      (body : symbol.body = .record isUnion pack fields) (mem : field ∈ fields)
      (inner : HoldsReference mapper before field.type) :
      HoldsReference mapper (before ++ symbol :: after) (.named symbol.nativeName)

variable {hoisted : List BindingSymbol} {symbol : BindingSymbol} {group : SymbolGroup}

theorem plainRecords_append_singleton :
    mapper.plainRecords (hoisted ++ [symbol]) =
      if mapper.isPlainRecord (mapper.plainRecords hoisted) symbol then
        (mapper.plainRecords hoisted).insert symbol.nativeName
      else mapper.plainRecords hoisted := by
  rw [plainRecords, List.foldl_append]
  rfl

theorem holdsReference_of_isPlainType
    (named : ∀ name, name ∉ mapper.plainRecords hoisted →
      mapper.isBlittable (.named name) = false → mapper.HoldsReference hoisted (.named name))
    {type : ManagedType} (h : mapper.isPlainType (mapper.plainRecords hoisted) type = false) :
    mapper.HoldsReference hoisted type := by
  cases type with
  | named name =>
      obtain ⟨hplain, hblittable⟩ := (Bool.or_eq_false_iff).mp h
      refine named name ?_ hblittable
      rw [← NameSet.contains_iff, hplain]
      exact nofun
  | string => exact .string
  | text => exact .text
  | array => exact .array
  | delegate => exact .delegate
  | void | primitive | bool | handle | untyped => cases h

theorem exists_field_of_isPlainRecord {isUnion : Bool} {pack : Option UInt64}
    {fields : List FieldBinding} {plain : NameSet}
    (hbody : symbol.body = .record isUnion pack fields)
    (h : mapper.isPlainRecord plain symbol = false) :
    ∃ field ∈ fields, mapper.isPlainType plain field.type = false := by
  rw [isPlainRecord_record hbody, List.all_eq_false] at h
  obtain ⟨field, hfield, hmanaged⟩ := h
  exact ⟨field, hfield, by simpa using hmanaged⟩

/-- A record of another name, lifted out later, changes nothing. -/
theorem HoldsReference.append_singleton (h : mapper.HoldsReference hoisted (.named name))
    (other : symbol.nativeName ≠ name) :
    mapper.HoldsReference (hoisted ++ [symbol]) (.named name) := by
  cases h with
  | unlisted notEnum notPlain outside =>
      refine .unlisted notEnum notPlain fun record hrecord => ?_
      rcases List.mem_append.mp hrecord with hin | hlast
      · exact outside record hin
      · exact List.mem_singleton.mp hlast ▸ other
  | lifted body mem inner =>
      rw [List.append_assoc]
      exact .lifted body mem inner

/-- A name that is not found to be free of managed references holds one. The induction is on the
records lifted out so far, the last one first. -/
theorem holdsReference_named
    (records : ∀ symbol ∈ hoisted, ∃ isUnion pack fields,
      symbol.body = .record isUnion pack fields) :
    ∀ name, name ∉ mapper.plainRecords hoisted → mapper.isBlittable (.named name) = false →
      mapper.HoldsReference hoisted (.named name) := by
  induction hoisted using List.reverseRecOn with
  | nil =>
      intro name _ hblittable
      have hunlisted : ¬ (name ∈ mapper.index.enums ∨ name ∈ mapper.index.blittable) := by
        rw [← isBlittable_named, hblittable]
        exact nofun
      rw [not_or] at hunlisted
      exact .unlisted hunlisted.1 hunlisted.2 nofun
  | append_singleton hoisted symbol ih =>
      have hnamed := ih fun other hother => records other (List.mem_append_left _ hother)
      intro name hname hblittable
      rw [plainRecords_append_singleton] at hname
      by_cases hsame : symbol.nativeName = name
      · subst hsame
        have hmanaged : mapper.isPlainRecord (mapper.plainRecords hoisted) symbol = false := by
          by_contra hplain
          rw [if_pos (by simpa using hplain)] at hname
          exact hname (NameSet.mem_insert.mpr (.inl rfl))
        obtain ⟨isUnion, pack, fields, hbody⟩ :=
          records symbol (List.mem_append_right _ List.mem_cons_self)
        obtain ⟨field, hfield, htype⟩ := exists_field_of_isPlainRecord hbody hmanaged
        exact .lifted hbody hfield (holdsReference_of_isPlainType hnamed htype)
      · have hbefore : name ∉ mapper.plainRecords hoisted := by
          intro hmem
          split at hname
          · exact hname (NameSet.mem_insert.mpr (.inr hmem))
          · exact hname hmem
        exact (hnamed name hbefore hblittable).append_singleton hsame

/-- The declaration of a group is a record with a field that holds a managed reference. -/
def HoldsReferenceIn (mapper : Mapper) (group : SymbolGroup) : Prop :=
  ∃ isUnion pack fields, group.main.body = .record isUnion pack fields ∧
    ∃ field ∈ fields, mapper.HoldsReference group.hoisted field.type

theorem holdsReferenceIn_of_isBlittableGroup (h : mapper.lowerRecordAs record name = .ok group)
    (managed : mapper.isBlittableGroup group = false) : mapper.HoldsReferenceIn group := by
  obtain ⟨-, -, -, isUnion, pack, fields, hbody⟩ := main_of_lowerRecordAs h
  obtain ⟨field, hfield, htype⟩ := exists_field_of_isPlainRecord hbody managed
  have hrecords : ∀ symbol ∈ group.hoisted, ∃ isUnion pack fields,
      symbol.body = .record isUnion pack fields := fun symbol hsymbol =>
    (record_of_mem_symbols h (SymbolGroup.mem_symbols_of_mem_hoisted hsymbol)).2
  exact ⟨isUnion, pack, fields, hbody, field, hfield,
    holdsReference_of_isPlainType (holdsReference_named hrecords) htype⟩

/-! ## Types that lie in a union -/

end Mapper

theorem NativeType.resolve_kind_ne_typedef (type : NativeType) (name : String)
    (underlying : NativeType) : type.resolve.kind ≠ .typedef name underlying := by
  fun_induction resolve type with
  | case1 _ _ _ _ ih => exact ih
  | case2 type htypedef =>
      obtain ⟨kind, layout, isConst⟩ := type
      intro hkind
      cases hkind
      exact htypedef _ _ _ _ rfl

namespace Mapper

variable {mapper : Mapper} {record : Declaration} {name label : String} {error : MappingError}

/-- An enumeration that the run does not bind, by any name of it, and whose integer type is none. -/
def IsMistypedEnum (mapper : Mapper) (type : NativeType) : Prop :=
  mapper.boundTypedef? type = none ∧
    ∃ enumName integer, type.resolve.kind = .enumeration enumName integer ∧
      ∀ bits signed, integer.kind ≠ .integer bits signed

/-- A type that lies in a union and may hold a managed reference there: an array, or a record or
wrapper that the index does not list as free of them. -/
inductive MayHoldReference (mapper : Mapper) (type : NativeType) : Prop
  | array (array : type.resolve.isArray = true)
  | wrapper {name : String} (bound : mapper.boundTypedef? type = some name)
      (managed : name ∉ mapper.index.blittable)
  | struct {name : String} {isUnion : Bool} (kind : type.resolve.kind = .record (some name) isUnion)
      (managed : name ∉ mapper.index.blittable)

theorem MayHoldReference.not_isMistypedEnum {type : NativeType}
    (h : mapper.MayHoldReference type) : ¬ mapper.IsMistypedEnum type := by
  rintro ⟨hunbound, enumName, integer, henumeration, -⟩
  cases h with
  | array array =>
      rw [NativeType.isArray, henumeration] at array
      cases array
  | wrapper bound => cases hunbound.symm.trans bound
  | struct kind => cases henumeration.symm.trans kind

/-- What a pointer leads to does not lie in the union. -/
theorem MayHoldReference.ne_pointer {type pointee : NativeType}
    (h : mapper.MayHoldReference type) : type.kind ≠ .pointer pointee := by
  obtain ⟨kind, layout, isConst⟩ := type
  rintro rfl
  cases h with
  | array array => cases array
  | wrapper bound => cases bound
  | struct kind => cases kind

theorem reference_eq_error {used noun : String} {position : Position}
    (h : mapper.reference used noun position = .error error) : used ∉ mapper.index.blittable := by
  intro hplain
  rw [reference_eq_ok_iff.mpr ⟨fun _ => hplain, rfl⟩] at h
  cases h

theorem map_integer_ne_unionMember {type : NativeType} {bits : UInt32} {signed : Bool}
    {position : Position} {scope : MapScope} (integer : type.kind = .integer bits signed)
    (description : String) :
    mapper.map type position scope ≠ .error (.unionMember description) := by
  obtain ⟨kind, layout, isConst⟩ := type
  cases integer
  intro h
  rw [map] at h
  split at h
  · cases h
  · cases h

/-- In a union, a type that leads to a function never fails for overlapping. -/
theorem map_unionField_ne_unionMember {type : NativeType} {scope : MapScope}
    (function : type.signature?.isSome) (description : String) :
    mapper.map type .unionField scope ≠ .error (.unionMember description) := by
  obtain ⟨kind, layout, isConst⟩ := type
  cases kind with
  | typedef used underlying =>
      have hfunction : underlying.signature?.isSome := function
      simp [map, hfunction]
  | function signature => simp [map]
  | pointer pointee =>
      obtain ⟨signature, hsignature⟩ := Option.isSome_iff_exists.mp function
      have hfound : pointee.function? = some signature := hsignature
      simp [map_pointer_of_function hfound, Position.holdsDelegates]
  | _ => cases function

/-- What is refused for overlapping, without typedefs. -/
theorem overlaps_of_map {type : NativeType} {scope : MapScope} {description : String}
    (resolved : ∀ used underlying, type.kind ≠ .typedef used underlying)
    (h : mapper.map type .unionField scope = .error (.unionMember description)) :
    type.isArray = true ∨
      (∃ used isUnion, type.kind = .record (some used) isUnion ∧
        used ∉ mapper.index.blittable) ∨
      ∃ enumName integer, type.kind = .enumeration enumName integer ∧
        ∀ bits signed, integer.kind ≠ .integer bits signed := by
  obtain ⟨kind, layout, isConst⟩ := type
  cases kind with
  | typedef used underlying => exact absurd rfl (resolved used underlying)
  | array => exact .inl rfl
  | enumeration enumName integer =>
      refine .inr (.inr ⟨enumName, integer, rfl, fun bits signed hinteger => ?_⟩)
      rw [map] at h
      split at h
      · cases h
      · exact map_integer_ne_unionMember hinteger description h
  | record tag isUnion =>
      cases tag with
      | none =>
          rw [map] at h
          split at h <;> cases h
      | some used =>
          rw [map] at h
          split at h
          · exact .inr (.inl ⟨used, isUnion, rfl, reference_eq_error h⟩)
          · cases h
  | pointer pointee =>
      cases hfound : pointee.function? with
      | some signature => simp [map_pointer_of_function hfound, Position.holdsDelegates] at h
      | none => simp [map_pointer_of_object hfound, Position.passesStrings] at h
  | integer => exact absurd h (map_integer_ne_unionMember rfl description)
  | void | float | openArray =>
      rw [map] at h
      split at h <;> cases h
  | bool | char | function | unexposed =>
      rw [map] at h
      cases h

/-- What is refused for overlapping may hold a managed reference, unless it is an enumeration whose
integer type is none. -/
theorem mayHoldReference_of_map {type : NativeType} {scope : MapScope} {description : String}
    (h : mapper.map type .unionField scope = .error (.unionMember description)) :
    mapper.MayHoldReference type ∨ mapper.IsMistypedEnum type := by
  cases hfunction : type.signature? with
  | some signature =>
      exact absurd h (map_unionField_ne_unionMember (by simp [hfunction]) description)
  | none =>
      rw [map_of_typedefs fun _ => hfunction] at h
      cases hbound : mapper.boundTypedef? type with
      | some used =>
          rw [hbound] at h
          exact .inl (.wrapper hbound (reference_eq_error h))
      | none =>
          rw [hbound] at h
          rcases overlaps_of_map type.resolve_kind_ne_typedef h with
            harray | ⟨used, isUnion, hkind, hmanaged⟩ | hmistyped
          · exact .inl (.array harray)
          · exact .inl (.struct hkind hmanaged)
          · exact .inr ⟨hbound, hmistyped⟩

end Mapper

/-! ## Members that lie in a union -/

namespace RecordMember

variable {mapper : Mapper} {context : RecordContext} {member : RecordMember} {label : String}
  {description : String}

/-- A member that lies in the union itself and holds a managed reference there, or may do so. -/
inductive OverlapsByValue (mapper : Mapper) (context : RecordContext) : RecordMember → Prop
  | typed {declaration : Declaration} {source : FieldRecord}
      (managed : mapper.MayHoldReference declaration.type) :
      OverlapsByValue mapper context (.field declaration source)
  /-- A nameless record that a field declares and stores. -/
  | stored {declaration nested : Declaration} {isUnion : Bool} {group : SymbolGroup}
      (kind : declaration.type.kind = .record none isUnion)
      (lowered : mapper.lowerRecordAs nested (context.hoistedName declaration.spelling) =
        .ok group)
      (managed : mapper.HoldsReferenceIn group) :
      OverlapsByValue mapper context (.field declaration (.declared nested))
  | anonymous {number : Nat} {nested : Declaration} {group : SymbolGroup}
      (lowered : mapper.lowerRecordAs nested
        (context.hoistedName ("Anonymous" ++ toString number)) = .ok group)
      (managed : mapper.HoldsReferenceIn group) :
      OverlapsByValue mapper context (.anonymous number nested)

/-- A field that is a pointer to the nameless record that it declares. -/
def DeclaresPointee : RecordMember → Prop
  | .field declaration (.declared _) => ∃ pointee, declaration.type.kind = .pointer pointee
  | _ => False

/-- A field that is an enumeration whose integer type is none. -/
def IsMistypedEnum (mapper : Mapper) : RecordMember → Prop
  | .field declaration _ => mapper.IsMistypedEnum declaration.type
  | .anonymous _ _ => False

theorem OverlapsByValue.not_declaresPointee (h : OverlapsByValue mapper context member) :
    ¬ member.DeclaresPointee := by
  cases h with
  | @typed declaration source managed =>
      cases source with
      | declared nested =>
          rintro ⟨pointee, hpointer⟩
          exact managed.ne_pointer hpointer
      | none | shared | missing => exact nofun
  | stored kind =>
      rintro ⟨pointee, hpointer⟩
      cases kind.symm.trans hpointer
  | anonymous => exact nofun

theorem OverlapsByValue.not_isMistypedEnum (h : OverlapsByValue mapper context member) :
    ¬ member.IsMistypedEnum mapper := by
  cases h with
  | typed managed => exact managed.not_isMistypedEnum
  | @stored declaration nested isUnion group kind =>
      obtain ⟨_, _, ⟨_, layout, isConst⟩, _, _, _, _, _, _, _, _, _⟩ := declaration
      cases kind
      rintro ⟨-, enumName, integer, henumeration, -⟩
      cases henumeration
  | anonymous => exact nofun

/-- A field that declares a nameless record uses one. -/
theorem usesNamelessRecord_of_mem_ofChildren {number : Nat} {pending : Option Declaration}
    {last : Option String} {children : List Declaration} {declaration nested : Declaration}
    (h : .field declaration (.declared nested) ∈ ofChildren number pending last children) :
    declaration.type.usesNamelessRecord = true := by
  fun_induction ofChildren number pending last children with
  | case1 => cases h
  | case2 | case5 | case6 => grind
  | case3 | case4 | case7 => grind

/-- A field that uses a nameless record stores it, points to it or is an array. -/
theorem storage_of_usesNamelessRecord {type : NativeType} (h : type.usesNamelessRecord = true) :
    (∃ isUnion, type.kind = .record none isUnion) ∨ (∃ pointee, type.kind = .pointer pointee) ∨
      type.resolve.isArray = true := by
  obtain ⟨kind, layout, isConst⟩ := type
  cases kind with
  | record tag isUnion =>
      cases tag with
      | none => exact .inl ⟨isUnion, rfl⟩
      | some used => cases h
  | pointer pointee => exact .inr (.inl ⟨pointee, rfl⟩)
  | array | openArray => exact .inr (.inr rfl)
  | _ => cases h

/-- A record lifted out of a union that is refused for holding a managed reference lies in the
union, unless its field is a pointer. -/
theorem overlapsByValue_of_managed {nested : Declaration} {group : SymbolGroup}
    (uses : ∀ declaration, member = .field declaration (.declared nested) →
      declaration.type.usesNamelessRecord = true)
    (lifts : member.nested? = some nested)
    (lowered : mapper.lowerRecordAs nested (context.hoistedName member.label) = .ok group)
    (managed : mapper.isBlittableGroup group = false) :
    OverlapsByValue mapper context member ∨ member.DeclaresPointee := by
  have hholds : mapper.HoldsReferenceIn group :=
    Mapper.holdsReferenceIn_of_isBlittableGroup lowered managed
  cases member with
  | anonymous number record =>
      cases lifts
      exact .inl (.anonymous lowered hholds)
  | field declaration source =>
      cases source with
      | declared record =>
          cases lifts
          rcases storage_of_usesNamelessRecord (uses declaration rfl) with
            ⟨isUnion, hstored⟩ | hpointer | harray
          · exact .inl (.stored hstored lowered hholds)
          · exact .inr hpointer
          · exact .inl (.typed (.array harray))
      | none | shared | missing => cases lifts

/-- A member of a union that is refused for overlapping lies in the union, but for two kinds. -/
theorem overlapsByValue_of_fails (union : context.isUnion = true)
    (uses : ∀ declaration nested, member = .field declaration (.declared nested) →
      declaration.type.usesNamelessRecord = true)
    (h : Fails mapper context member (.inField label (.unionMember description))) :
    member.label = label ∧
      (OverlapsByValue mapper context member ∨ member.DeclaresPointee ∨
        member.IsMistypedEnum mapper) := by
  cases h with
  | nested _ failed => exact absurd failed (Mapper.lowerRecordAs_ne_unionMember description)
  | @overlapping _ nested _ _ lifts lowered managed =>
      exact ⟨rfl, (overlapsByValue_of_managed (uses · nested) lifts lowered managed).imp_right
        .inl⟩
  | unmapped failed =>
      rw [union] at failed
      rcases Mapper.mayHoldReference_of_map failed with hmanaged | hmistyped
      · exact ⟨rfl, .inl (.typed hmanaged)⟩
      · exact ⟨rfl, .inr (.inr hmistyped)⟩

end RecordMember

namespace Mapper

variable {mapper : Mapper} {record : Declaration} {label description : String}

/-- A union that is not lowered because a member of its own may not overlap the others names the
first member that fails. That member lies in the union by value, exactly if it is neither a pointer
to a nameless record that it declares nor an enumeration whose integer type is none. -/
theorem refusesOverlap_iff (union : record.kind = .union)
    (h : mapper.lowerRecord record = .error (.inField label (.unionMember description))) :
    ∃ name before member after lowered, record.typeName? = some name ∧
      record.members = before ++ member :: after ∧
      List.Forall₂ (RecordMember.Lowers mapper (record.context name)) before lowered ∧
      member.lowerWith mapper (record.context name) (fun nested _ => mapper.lowerRecordAs nested) =
        .error (.inField label (.unionMember description)) ∧
      member.label = label ∧
      (member.OverlapsByValue mapper (record.context name) ↔
        ¬ member.DeclaresPointee ∧ ¬ member.IsMistypedEnum mapper) := by
  cases hname : record.typeName? with
  | none =>
      rw [lowerRecord, hname] at h
      cases h
  | some name =>
      rw [lowerRecord, hname] at h
      obtain ⟨before, member, after, lowered, hmembers, hbefore, hmember⟩ :=
        exists_first_of_lowerRecordAs h
      have huses : ∀ declaration nested, member = .field declaration (.declared nested) →
          declaration.type.usesNamelessRecord = true := by
        rintro declaration nested rfl
        have hmem : RecordMember.field declaration (.declared nested) ∈ record.members := by
          rw [hmembers]
          exact List.mem_append_right _ List.mem_cons_self
        exact RecordMember.usesNamelessRecord_of_mem_ofChildren hmem
      have hunion : (record.context name).isUnion = true := decide_eq_true union
      obtain ⟨hlabel, hreason⟩ := RecordMember.overlapsByValue_of_fails hunion huses
        (RecordMember.fails_of_lowerWith hmember)
      refine ⟨name, before, member, after, lowered, rfl, hmembers, hbefore, hmember, hlabel,
        fun hvalue => ⟨hvalue.not_declaresPointee, hvalue.not_isMistypedEnum⟩, ?_⟩
      rintro ⟨hpointee, hmistyped⟩
      rcases hreason with hvalue | hdeclares | henumeration
      · exact hvalue
      · exact absurd hdeclares hpointee
      · exact absurd henumeration hmistyped

/-- A union of one field, which declares a nameless structure of a text and has a type made from
it. -/
def textUnion (type : NativeType → NativeType) : Declaration :=
  .ofUnion "U" [.ofStruct "" [.ofField "s" .text], .ofField "p" (type (.anonymousRecord false))]

/-- The error for the field of `textUnion`. -/
def textOverlap : MappingError :=
  .unionMember ("struct " ++ MappingError.quoted "U_p" ++ " holding a managed reference")

theorem refusesOverlap_iff_stored :
    (textUnion id).kind = .union ∧
    (Mapper.mk ∅ true).lowerRecord (textUnion id) = .error (.inField "p" textOverlap) ∧
    ∃ member ∈ (textUnion id).members, member.label = "p" ∧
      member.OverlapsByValue (Mapper.mk ∅ true) ((textUnion id).context "U") := by
  have hrefused : (Mapper.mk ∅ true).lowerRecord (textUnion id) =
      .error (.inField "p" textOverlap) := Outcome.error?_eq_some_iff.mp (by decide +kernel)
  obtain ⟨name, before, member, after, lowered, hname, hmembers, -, -, hlabel, hiff⟩ :=
    refusesOverlap_iff rfl hrefused
  have hmem : member ∈ (textUnion id).members := by
    rw [hmembers]
    exact List.mem_append_right _ List.mem_cons_self
  refine ⟨rfl, hrefused, member, hmem, hlabel, ?_⟩
  cases hname
  cases List.mem_singleton.mp hmem
  refine hiff.mpr ⟨?_, ?_⟩
  · rintro ⟨pointee, hpointer⟩
    cases hpointer
  · rintro ⟨-, enumName, integer, henumeration, -⟩
    cases henumeration

/-- A union of a pointer to a nameless structure is refused for a text behind the pointer. -/
theorem not_overlapsByValue_pointer :
    ¬ ∀ (mapper : Mapper) (record : Declaration) (label description : String),
      record.kind = .union →
      mapper.lowerRecord record = .error (.inField label (.unionMember description)) →
      ∃ name member, record.typeName? = some name ∧ member ∈ record.members ∧
        member.label = label ∧ member.OverlapsByValue mapper (record.context name) := by
  intro h
  have hrefused : (Mapper.mk ∅ true).lowerRecord (textUnion .pointer) =
      .error (.inField "p" textOverlap) := Outcome.error?_eq_some_iff.mp (by decide +kernel)
  obtain ⟨name, member, -, hmem, -, hvalue⟩ := h _ (textUnion .pointer) _ _ rfl hrefused
  cases List.mem_singleton.mp hmem
  exact hvalue.not_declaresPointee ⟨_, rfl⟩

end Mapper

end Interop
