import Interop.Identifier
import Interop.Managed.Type

/-!
# Types in source

How managed types, the attributes that give them their native size, parameter lists and calling
conventions are written.
-/

namespace Interop

namespace ManagedType

/-- A type as it is written. Addresses of every kind have one type. -/
def source : ManagedType → String
  | .void => "void"
  | .primitive type => type.keyword
  | .bool => "bool"
  | .handle _ | .untyped => "IntPtr"
  | .string | .text _ => "string"
  | .array element _ => element.source ++ "[]"
  | .delegate signature => Identifier.escape signature.name
  | .named name => Identifier.escape name
termination_by structural type => type

/-- The kind of native storage that a type has to be given, if it does not have it by itself. -/
def unmanaged? : ManagedType → Option String
  | .bool => some "UnmanagedType.U1"
  | .string => some "UnmanagedType.LPStr"
  | .text length => some ("UnmanagedType.ByValTStr, SizeConst = " ++ toString length.toNat)
  | .array .bool length =>
    some ("UnmanagedType.ByValArray, SizeConst = " ++ toString length.toNat ++
      ", ArraySubType = UnmanagedType.U1")
  | .array _ length => some ("UnmanagedType.ByValArray, SizeConst = " ++ toString length.toNat)
  | _ => none

/-- The attribute that gives a type its native storage. -/
def marshalAs? (type : ManagedType) : Option String :=
  type.unmanaged?.map fun storage => "MarshalAs(" ++ storage ++ ")"

/-- A type as it is written in a parameter list, its attribute in front of it. -/
def parameterSource (type : ManagedType) : String :=
  match type.marshalAs? with
  | some marshalling => "[" ++ marshalling ++ "] " ++ type.source
  | none => type.source

end ManagedType

namespace CallingConvention

/-- A calling convention as it is written; one without a name is the platform's own. -/
def source : CallingConvention → String
  | .c => "Cdecl"
  | .stdCall => "StdCall"
  | .fastCall => "FastCall"
  | .thisCall => "ThisCall"
  | .other _ => "Winapi"

end CallingConvention

namespace Parameter

/-- A parameter as it is written. -/
def source (param : Parameter) : String :=
  param.type.parameterSource ++ " " ++ param.name

/-- A parameter list as it is written, without parentheses. -/
def listSource (params : List Parameter) : String :=
  ", ".intercalate (params.map source)

end Parameter

end Interop
