import Interop.Native.Type
import Interop.Mapping.Error

/-!
# Positions and scopes

The rules for a type depend on where it stands, and a delegate that has to be invented takes its
name from the declaration and the member it stands in.
-/

namespace Interop

/-- Where a type stands. -/
inductive Position where
  | field
  /-- A field that shares its storage with the other fields of a union. -/
  | unionField
  | parameter
  | result
  /-- What a typedef names. -/
  | aliasTarget
  /-- What a pointer or an array parameter points to. -/
  | pointee
  | arrayElement
deriving DecidableEq, Inhabited

namespace Position

/-- Where a field of a record stands. -/
def ofField (inUnion : Bool) : Position := if inUnion then .unionField else .field

/-- Whether a type is that of a field. -/
def isField : Position → Bool
  | .field | .unionField => true
  | _ => false

/-- Whether a character pointer is passed as a string. -/
def passesStrings : Position → Bool
  | .field | .parameter => true
  | _ => false

/-- Whether an inline character array is passed as a string. -/
def inlinesText : Position → Bool
  | .field | .unionField | .aliasTarget => true
  | _ => false

/-- Whether a function pointer is passed as a delegate. A delegate is a reference, which may not
overlap other union members, and it does not stand behind pointers or in arrays. -/
def holdsDelegates : Position → Bool
  | .field | .parameter | .result | .aliasTarget => true
  | .unionField | .pointee | .arrayElement => false

end Position

/-- The names that a type may use for what it has to invent. -/
structure MapScope where
  /-- The declaration that the type belongs to. -/
  owner : String
  /-- The member of the declaration. -/
  member : String
  /-- The name given to a record without a name. -/
  anonymousRecord : Option String
deriving DecidableEq

namespace MapScope

/-- The scope of a member, in which nameless records stay without a name. -/
def ofMember (owner member : String) : MapScope := ⟨owner, member, none⟩

/-- The name of a delegate invented in a scope. -/
def delegateName (scope : MapScope) : String := scope.owner ++ "_" ++ scope.member

end MapScope

namespace CallingConvention

/-- A convention that managed code can name. -/
def checked : CallingConvention → Except MappingError CallingConvention
  | .other code => .error (.unsupportedCallingConvention code)
  | convention => .ok convention

end CallingConvention

end Interop
