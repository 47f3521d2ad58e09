import Interop.Lowering.Typedef
import Interop.Naming

/-!
# Lowering functions

A function becomes an imported method. Functions that the user excludes, and those that other
translation units cannot see, have no binding.
-/

namespace Interop.Mapper

variable (mapper : Mapper)

/-- The symbol for a function that is to be bound. -/
def functionSymbol (naming : NamingPolicy) (declaration : Declaration) :
    Except MappingError BindingSymbol := do
  let native := declaration.spelling
  match declaration.type.signature? with
  | none => .error (.unsupportedType ("type of function " ++ MappingError.quoted native))
  | some signature =>
    let convention ← signature.callable
    let (result, params) ← mapper.mapSignature native signature
      (declaration.parameterNames signature)
    .ok ⟨.function, native, naming.functionName native, .function result params convention⟩

/-- The symbol for a function, if it is to be bound. -/
def lowerFunction (naming : NamingPolicy) (declaration : Declaration) :
    Except MappingError (Option BindingSymbol) :=
  if naming.isExcluded declaration.spelling || declaration.linkage = .internal then .ok none
  else (mapper.functionSymbol naming declaration).map some

end Interop.Mapper
