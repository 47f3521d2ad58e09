import Interop.Mapping.Types
import Interop.Native.Declaration

/-!
# Lowering typedefs

A typedef for a function pointer becomes a delegate of its name, any other a structure around one
field, so that the name stays visible to callers. A typedef that gives a record or an enumeration
the name it has already needs no declaration.
-/

namespace Interop

namespace Declaration

/-- The names that the header gives to the parameters of a signature: one for each of them, or
none at all. -/
def parameterNames (declaration : Declaration) (signature : Signature) : List String :=
  let names := (declaration.childrenOfKind .parameter).map (·.spelling)
  if names.length = signature.params.length then names else []

/-- What a typedef names. -/
def typedefTarget? (declaration : Declaration) : Option NativeType :=
  declaration.underlying <|>
    match declaration.type.kind with
    | .typedef _ underlying => some underlying
    | _ => none

end Declaration

/-- Whether a type is a record or an enumeration with the given name. -/
def NativeType.isTagged (type : NativeType) (name : String) : Bool :=
  match type.resolve.kind with
  | .record tag _ => tag = some name
  | .enumeration tag _ => tag = some name
  | _ => false

namespace Mapper

variable (mapper : Mapper)

/-- The field of a structure around a type: an address is called so. -/
def wrapperField : ManagedType → String
  | .handle _ => "Pointer"
  | _ => "Value"

/-- The body for a typedef called `name`. -/
def typedefBody (declaration : Declaration) (name : String) (target : NativeType) :
    Except MappingError SymbolBody :=
  match target.signature? with
  | some signature =>
    (mapper.delegate name signature (declaration.parameterNames signature)).map .delegate
  | none =>
    (mapper.map target .aliasTarget (.ofMember name "Value")).map fun type =>
      .wrapper (wrapperField type) type

/-- The symbol for a typedef, if it needs one. -/
def lowerTypedef (declaration : Declaration) : Except MappingError (Option BindingSymbol) :=
  let name := declaration.spelling
  match declaration.typedefTarget? with
  | none => .error (.unsupportedType ("typedef " ++ MappingError.quoted name))
  | some target =>
    if target.isTagged name then .ok none
    else
      (mapper.typedefBody declaration name target).map fun body =>
        some ⟨.typedef, name, Identifier.escape name, body⟩

end Mapper

end Interop
