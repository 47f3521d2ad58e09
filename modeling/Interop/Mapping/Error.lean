/-!
# Mapping errors

Why a native declaration has no binding. An error inside a field or a parameter carries the name
of each field and parameter on the way to it, the outermost first.
-/

namespace Interop

/-- Why a native declaration cannot be bound. -/
inductive MappingError where
  | unsupportedType (description : String)
  | bitField (field : String)
  | variadic
  | flexibleArrayMember
  | incompleteType (name : String)
  | anonymousType
  | unsupportedCallingConvention (code : Int32)
  | overAligned (align natural : Nat)
  | layoutMismatch (details : String)
  | unionMember (description : String)
  | emptyRecord
  | nameCollision (name : String)
  | inField (field : String) (cause : MappingError)
  | inParameter (param : String) (cause : MappingError)
deriving DecidableEq, Inhabited

namespace MappingError

/-- A name between grave accents. -/
def quoted (name : String) : String := "\x60" ++ name ++ "\x60"

/-- The message for an error. -/
def message : MappingError → String
  | .unsupportedType description => "unsupported type " ++ quoted description
  | .bitField field => "bit-field " ++ quoted field ++ " has no managed layout equivalent"
  | .variadic => "variadic functions cannot be bound"
  | .flexibleArrayMember => "flexible array member has no fixed size"
  | .incompleteType name =>
    quoted name ++ " is incomplete or not emitted and cannot be used by value"
  | .anonymousType => "anonymous type has no name to refer to"
  | .unsupportedCallingConvention code =>
    "calling convention " ++ toString code.toInt ++ " has no P/Invoke equivalent"
  | .overAligned align natural =>
    "alignment " ++ toString align ++ " exceeds the natural alignment " ++
      toString natural ++ " of the fields"
  | .layoutMismatch details => "layout mismatch: " ++ details
  | .unionMember description => description ++ " cannot overlap other union members"
  | .emptyRecord => "empty record has no managed equivalent"
  | .nameCollision name => "name " ++ quoted name ++ " is already used by another declaration"
  | .inField field cause => "field " ++ quoted field ++ ": " ++ cause.message
  | .inParameter param cause => "parameter " ++ quoted param ++ ": " ++ cause.message

end MappingError

end Interop
