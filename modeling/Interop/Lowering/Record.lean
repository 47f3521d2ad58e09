import Interop.Lowering.Layout
import Interop.Lowering.Members
import Interop.Mapping.Types

/-!
# Lowering records

A record definition becomes a structure. Each nameless record among its members is lifted out and
declared in front of it, under the name of the record that holds it, an underscore and the name
of the member; a reference to that name takes its place. A member of a union may hold no managed
reference, so a record lifted out of a union has to be blittable.

The recursion goes from a record to the records that its members lift out, which are among its
children.
-/

namespace Interop

/-! ## Blittable groups -/

namespace Mapper

variable (mapper : Mapper)

/-- Whether a symbol is a record all of whose fields hold no managed reference; `plain` are
records known to hold none. -/
def isPlainRecord (plain : NameSet) (symbol : BindingSymbol) : Bool :=
  match symbol.body with
  | .record _ _ fields => fields.all fun field =>
    match field.type with
    | .named name => plain.contains name || mapper.isBlittable (.named name)
    | type => mapper.isBlittable type
  | _ => false

/-- The names of those records in a list that hold no managed reference, looking through the
records that come before each. -/
def plainRecords (symbols : List BindingSymbol) : NameSet :=
  symbols.foldl (fun plain symbol =>
    if mapper.isPlainRecord plain symbol then plain.insert symbol.nativeName else plain) ∅

/-- Whether the declaration of a group is a record that holds no managed reference. -/
def isBlittableGroup (group : SymbolGroup) : Bool :=
  mapper.isPlainRecord (mapper.plainRecords group.hoisted) group.main

end Mapper

/-! ## Members -/

/-- A member of a record with what it needs beside it. -/
structure LoweredMember where
  /-- The records lifted out for the member. -/
  hoisted : List BindingSymbol
  binding : FieldBinding
  layout : Option Layout
  offsetBits : Option UInt64

namespace LoweredMember

/-- Where the member lies, if its layout is known. -/
def slot? (member : LoweredMember) : Option MemberSlot :=
  member.layout.map fun layout =>
    ⟨member.binding.name, layout.size.toNat, layout.align.toNat,
      member.offsetBits.map UInt64.toNat⟩

/-- Where the members lie, if all their layouts are known. -/
def slots? : List LoweredMember → Option (List MemberSlot)
  | [] => some []
  | member :: members => do
    let slot ← member.slot?
    let slots ← slots? members
    some (slot :: slots)

end LoweredMember

/-- The record that members belong to. -/
structure RecordContext where
  /-- The name of the record, not escaped. -/
  name : String
  isUnion : Bool

namespace RecordContext

variable (context : RecordContext)

/-- The name of a record lifted out for a member. -/
def hoistedName (label : String) : String := context.name ++ "_" ++ label

/-- The name of a field. A field may not be called like its structure. -/
def fieldName (native : String) : String :=
  if Identifier.escape native = Identifier.escape context.name then
    Identifier.escape native ++ "_"
  else Identifier.escape native

end RecordContext

namespace RecordMember

variable (mapper : Mapper) (context : RecordContext)

/-- Lift a record out for a member. Members of a union share their storage, so the record must
hold no managed reference there. -/
def hoist (label : String) (lower : String → Except MappingError SymbolGroup) :
    Except MappingError (List BindingSymbol) :=
  let name := context.hoistedName label
  Except.mapError (.inField label) do
    let group ← lower name
    if context.isUnion && !mapper.isBlittableGroup group then
      .error (.unionMember ("struct " ++ MappingError.quoted name ++
        " holding a managed reference"))
    .ok group.symbols

/-- Lower a field; `record` is what a nameless record in its type is called, if it has one. -/
def lowerField (field : Declaration) (hoisted : List BindingSymbol) (record : Option String) :
    Except MappingError LoweredMember := do
  let type ← (mapper.map field.type (.ofField context.isUnion)
    ⟨context.name, field.spelling, record⟩).mapError (.inField field.spelling)
  .ok ⟨hoisted, ⟨context.fieldName field.spelling, field.spelling, type⟩, field.type.layout,
    field.fieldOffsetBits⟩

/-- Lower a member, given how the record lifted out for it is lowered. -/
def lowerWith (member : RecordMember)
    (lower : (nested : Declaration) → member.nested? = some nested → String →
      Except MappingError SymbolGroup) : Except MappingError LoweredMember :=
  match member with
  | .anonymous number record => do
    let label := (RecordMember.anonymous number record).label
    let hoisted ← hoist mapper context label (lower record rfl)
    .ok ⟨hoisted, ⟨label, "", .named (context.hoistedName label)⟩, record.type.layout, none⟩
  | .field declaration record =>
    if declaration.bitWidth.isSome then .error (.bitField declaration.spelling)
    else
      match record with
      | .none => lowerField mapper context declaration [] none
      | .declared nested => do
        let label := declaration.spelling
        let hoisted ← hoist mapper context label (lower nested rfl)
        lowerField mapper context declaration hoisted (some (context.hoistedName label))
      | .shared first =>
        lowerField mapper context declaration [] (some (context.hoistedName first))
      | .missing => .error (.inField declaration.spelling .anonymousType)

/-- Lower members from left to right; the first that fails makes the record fail. -/
def lowerAll : (members : List RecordMember) →
    ((member : RecordMember) → member ∈ members → (nested : Declaration) →
      member.nested? = some nested → String → Except MappingError SymbolGroup) →
    Except MappingError (List LoweredMember)
  | [], _ => .ok []
  | member :: members, lower => do
    let first ← member.lowerWith mapper context (lower member List.mem_cons_self)
    let rest ← lowerAll members fun other h => lower other (List.mem_cons_of_mem _ h)
    .ok (first :: rest)

end RecordMember

/-! ## Records -/

namespace RecordContext

/-- The structure for a record definition with its members lowered. It is packed when the native
record is; a member of unknown layout leaves the layout unchecked. -/
def close (context : RecordContext) (record : Declaration) (members : List LoweredMember) :
    Except MappingError SymbolGroup := do
  if members.isEmpty then .error .emptyRecord
  let pack ←
    match record.type.layout, LoweredMember.slots? members with
    | some layout, some slots => layout.pack? context.isUnion slots
    | _, _ => .ok none
  .ok ⟨members.flatMap (·.hoisted),
    ⟨.struct, record.typeName?.getD context.name, Identifier.escape context.name,
      .record context.isUnion pack (members.map (·.binding))⟩⟩

end RecordContext

namespace Mapper

variable (mapper : Mapper)

/-- The symbols for a record definition that is to be called `name`. -/
def lowerRecordAs (record : Declaration) (name : String) : Except MappingError SymbolGroup := do
  let context : RecordContext := ⟨name, record.kind = .union⟩
  let members ← RecordMember.lowerAll mapper context record.members
    fun _ _ nested _ nestedName => lowerRecordAs nested nestedName
  context.close record members
termination_by sizeOf record
decreasing_by exact Declaration.sizeOf_nested_lt ‹_› ‹_›

/-- The symbols for a record definition. -/
def lowerRecord (record : Declaration) : Except MappingError SymbolGroup :=
  match record.typeName? with
  | some name => mapper.lowerRecordAs record name
  | none => .error .anonymousType

end Mapper

end Interop
