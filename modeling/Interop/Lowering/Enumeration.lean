import Interop.Identifier
import Interop.Managed.Symbol
import Interop.Mapping.Error
import Interop.Native.Canonical
import Interop.Native.Declaration

/-!
# Lowering enumerations

Every enumerator gets a value: its own or, when the source leaves it out, the value after that of
the enumerator before it. Values are 64-bit and wrap around.
-/

namespace Interop

/-- Enumerators with their values, after one whose value is given. -/
def EnumMember.ofConstants (previous : Option Int64) : List Declaration → List EnumMember
  | [] => []
  | constant :: constants =>
    let value := constant.enumValue.getD ((previous.map (· + 1)).getD 0)
    ⟨Identifier.escape constant.spelling, value⟩ :: ofConstants (some value) constants

namespace Declaration

/-- The integer type of an enumeration, when it is known. -/
def enumInteger? (declaration : Declaration) : Option NativeType :=
  declaration.underlying <|>
    match declaration.type.kind with
    | .enumeration _ integer => some integer
    | _ => none

/-- The managed integer type of an enumeration; a 32-bit one if its native type is no integer. -/
def enumPrimitive (declaration : Declaration) : Except MappingError Primitive :=
  match declaration.enumInteger? with
  | none => .ok .int
  | some type =>
    match type.canonical.kind with
    | .integer bits signed =>
      match Primitive.integer? bits signed with
      | some primitive => .ok primitive
      | none => .error (.unsupportedType (toString bits.toNat ++ "-bit enum"))
    | .char signed => .ok (.character signed)
    | .bool => .ok .byte
    | _ => .ok .int

/-- The symbol for an enumeration. -/
def lowerEnum (declaration : Declaration) : Except MappingError BindingSymbol :=
  match declaration.typeName? with
  | none => .error .anonymousType
  | some name =>
    declaration.enumPrimitive.map fun underlying =>
      ⟨.enumeration, name, Identifier.escape name,
        .enumeration underlying
          (EnumMember.ofConstants none (declaration.childrenOfKind .enumerator))⟩

end Declaration

end Interop
