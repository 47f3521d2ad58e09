import Interop.Mapping.Parameters
import Interop.Registry

/-!
# Mapping types

How a native type is written in the generated source, by its kind and its position.

A typedef that the run binds stands for itself, any other for what it names. A pointer is a
handle unless it points to a function or to read-only text; what it points to never makes it
fail. An array is inline in a field and decays to a handle in a parameter. A record has to be
bound by the run to be used by value. Nothing in a union may hold a managed reference, since all
members of a union start at the same address.

`Mapper.map` recurses into the underlying type of a typedef, into pointees and elements, and into
the signature behind a function pointer, each of which is smaller than the type itself.
-/

namespace Interop

/-- What the mapping of types consults. -/
structure Mapper where
  /-- The declarations that the run binds. -/
  index : SymbolIndex
  /-- Whether read-only text is passed as strings. -/
  marshalStrings : Bool

/-- What a handle tells of its pointee, which never fails: a pointee without a managed form is
untyped. -/
def ManagedType.ofPointee : Except MappingError ManagedType → ManagedType
  | .ok .void | .error _ => .untyped
  | .ok type => type

namespace Mapper

variable (mapper : Mapper)

/-- The typedef that a pointee is, if the run binds it. -/
def aliasOf? (pointee : NativeType) : Option String :=
  match pointee.kind with
  | .typedef name _ => if mapper.index.aliases.contains name then some name else none
  | _ => none

/-- Refer to a bound record or wrapper. Inside a union it must hold no managed reference. -/
def reference (name noun : String) (position : Position) : Except MappingError ManagedType :=
  if position = .unionField ∧ ¬ mapper.index.blittable.contains name then
    .error (.unionMember (noun ++ " " ++ MappingError.quoted name ++
      " holding a managed reference"))
  else .ok (.named name)

/-- The managed form of a native type. -/
def map (type : NativeType) (position : Position) (scope : MapScope) :
    Except MappingError ManagedType :=
  match type with
  | ⟨.typedef name underlying, _, _⟩ =>
    if position = .unionField ∧ underlying.signature?.isSome then .ok (.handle .untyped)
    else if mapper.index.aliases.contains name then mapper.reference name "wrapper" position
    else map underlying position scope
  | ⟨.void, _, _⟩ =>
    if position = .result ∨ position = .pointee then .ok .void
    else .error (.unsupportedType "void")
  | ⟨.bool, _, _⟩ => .ok .bool
  | ⟨.char signed, _, _⟩ => .ok (.primitive (.character signed))
  | ⟨.integer bits signed, _, _⟩ =>
    match Primitive.integer? bits signed with
    | some primitive => .ok (.primitive primitive)
    | none => .error (.unsupportedType (toString bits.toNat ++ "-bit integer"))
  | ⟨.float bits, _, _⟩ =>
    match Primitive.floating? bits with
    | some primitive => .ok (.primitive primitive)
    | none => .error (.unsupportedType (toString bits.toNat ++ "-bit floating point"))
  | ⟨.pointer pointee, _, _⟩ =>
    match _found : pointee.function? with
    | some signature =>
      if position.holdsDelegates then
        match mapper.aliasOf? pointee with
        | some name => .ok (.named name)
        | none =>
          (signature.delegateWith (fun type _ => map type) scope.delegateName []).map .delegate
      else .ok (.handle .untyped)
    | none =>
      if mapper.marshalStrings && position.passesStrings && pointee.isConstChar then .ok .string
      else .ok (.handle (.ofPointee (map pointee .pointee scope)))
  | ⟨.array element length, layout, isConst⟩ =>
    if position = .unionField then .error (.unionMember "inline array")
    else if position = .parameter then .ok (.handle (.ofPointee (map element .pointee scope)))
    else if position = .result then .error (.unsupportedType "array return value")
    else
      let array := NativeType.nested ⟨.array element length, layout, isConst⟩
      if array.count = 0 then .error .flexibleArrayMember
      else if mapper.marshalStrings && position.inlinesText && array.lengths.length = 1 &&
          array.element.isChar then
        .ok (.text array.count)
      else (map array.element .arrayElement scope).map (.array · array.count)
  | ⟨.openArray element, _, _⟩ =>
    if position.isField then .error .flexibleArrayMember
    else .ok (.handle (.ofPointee (map element .pointee scope)))
  | ⟨.function _, _, _⟩ => .error (.unsupportedType "function type used by value")
  | ⟨.record (some name) _, _, _⟩ =>
    if mapper.index.records.contains name then mapper.reference name "struct" position
    else .error (.incompleteType name)
  | ⟨.record none _, _, _⟩ =>
    match scope.anonymousRecord with
    | some name => .ok (.named name)
    | none => .error .anonymousType
  | ⟨.enumeration name integer, _, _⟩ =>
    match name.filter mapper.index.enums.contains with
    | some name => .ok (.named name)
    | none => map integer position scope
  | ⟨.unexposed spelling, _, _⟩ => .error (.unsupportedType spelling)
termination_by sizeOf type
decreasing_by
  all_goals try (simp only [NativeType.mk.sizeOf_spec, TypeKind.typedef.sizeOf_spec,
    TypeKind.pointer.sizeOf_spec, TypeKind.array.sizeOf_spec, TypeKind.openArray.sizeOf_spec,
    TypeKind.enumeration.sizeOf_spec]; omega)
  · rename_i hmem
    have := Signature.sizeOf_lt_of_mem_types hmem
    have := NativeType.sizeOf_lt_of_function? _found
    simp only [NativeType.mk.sizeOf_spec, TypeKind.pointer.sizeOf_spec]
    omega
  · exact NativeType.sizeOf_nested_element_lt

/-- The result and the parameters of a function or delegate called `owner`. -/
def mapSignature (owner : String) (signature : Signature) (names : List String) :
    Except MappingError (ManagedType × List Parameter) :=
  signature.mapWith (fun type _ => mapper.map type) owner names

/-- The delegate called `name` for a function pointer. -/
def delegate (name : String) (signature : Signature) (names : List String) :
    Except MappingError Delegate :=
  signature.delegateWith (fun type _ => mapper.map type) name names

/-- Whether a managed type holds no managed reference. -/
def isBlittable : ManagedType → Bool
  | .void | .primitive _ | .bool | .handle _ | .untyped => true
  | .string | .text _ | .array _ _ | .delegate _ => false
  | .named name => mapper.index.enums.contains name || mapper.index.blittable.contains name

end Mapper

end Interop
