import Interop.Managed.Symbol
import Interop.Source.TypeName
import Interop.Text.Lines
import Interop.Text.Lower
import Interop.Text.Quoted

/-!
# Declarations in source

The text of one declaration, a fragment of the generated source. A fragment is a list of lines,
each ended by a line feed.

The layout attribute of a structure is a value of its own, `StructLayout`, because it is what
decides where the members of the managed structure lie.
-/

namespace Interop

/-- How the members of a structure are laid out. -/
inductive StructLayout where
  /-- Every field carries its offset. -/
  | explicit
  /-- The fields follow one another, aligned to at most `pack`. -/
  | sequential (pack : Option UInt64)
deriving DecidableEq

namespace StructLayout

/-- The layout of a record: the fields of a union all carry the offset zero. -/
def ofRecord (isUnion : Bool) (pack : Option UInt64) : StructLayout :=
  if isUnion then .explicit else .sequential pack

/-- A layout as it is written. -/
def source : StructLayout → String
  | .explicit => "LayoutKind.Explicit"
  | .sequential none => "LayoutKind.Sequential"
  | .sequential (some pack) => "LayoutKind.Sequential, Pack = " ++ toString pack.toNat

end StructLayout

namespace Source

/-- The indentation of declarations in the namespace. -/
def typeIndent : String := "    "

/-- The indentation of the members of these declarations. -/
def memberIndent : String := "        "

/-- The line of an attribute, if there is one. -/
def attributeLine (indent : String) (content : Option String) : List String :=
  match content with
  | some text => [indent ++ "[" ++ text ++ "]"]
  | none => []

/-- The lines of a block between braces. -/
def block (indent : String) (lines : List String) : List String :=
  [indent ++ "\x7b"] ++ lines ++ [indent ++ "\x7d"]

end Source

open Source

namespace FieldBinding

/-- The lines of a field. -/
def lines (field : FieldBinding) (isUnion : Bool) : List String :=
  (if isUnion then [memberIndent ++ "[FieldOffset(0)]"] else []) ++
    attributeLine memberIndent field.type.marshalAs? ++
    [memberIndent ++ "public " ++ field.type.source ++ " " ++ field.name ++ ";"]

end FieldBinding

namespace EnumMember

/-- The line of an enumerator. -/
def line (underlying : Primitive) (member : EnumMember) : String :=
  memberIndent ++ member.name ++ " = " ++ toString (underlying.literalValue member.value) ++ ","

end EnumMember

/-- The lines of a function or delegate: an attribute, the attribute of the result, and the
declaration itself, which starts with the words in `head`. -/
def Source.callableLines (indent content head name : String) (result : ManagedType)
    (params : List Parameter) : List String :=
  [indent ++ "[" ++ content ++ "]"] ++
    attributeLine indent (result.marshalAs?.map ("return: " ++ ·)) ++
    [indent ++ head ++ " " ++ result.source ++ " " ++ name ++
      "(" ++ Parameter.listSource params ++ ");"]

namespace Delegate

/-- The lines of a delegate. -/
def lines (indent : String) (signature : Delegate) : List String :=
  callableLines indent
    ("UnmanagedFunctionPointer(CallingConvention." ++ signature.convention.source ++ ")")
    "public delegate" (Identifier.escape signature.name) signature.result signature.params

/-- The declaration of a delegate. -/
def fragment (indent : String) (signature : Delegate) : String :=
  Text.ofLines (signature.lines indent)

end Delegate

namespace SymbolBody

/-- The lines of a structure. -/
def recordLines (name : String) (isUnion : Bool) (pack : Option UInt64)
    (fields : List FieldBinding) : List String :=
  [typeIndent ++ "[StructLayout(" ++ (StructLayout.ofRecord isUnion pack).source ++ ")]",
    typeIndent ++ "public partial struct " ++ name] ++
    block typeIndent (fields.flatMap (·.lines isUnion))

/-- The lines of an enumeration. -/
def enumLines (name : String) (underlying : Primitive) (members : List EnumMember) :
    List String :=
  [typeIndent ++ "public enum " ++ name ++ " : " ++ underlying.keyword] ++
    block typeIndent (members.map (·.line underlying))

/-- The lines of a structure around one field, with a constructor that fills it. -/
def wrapperLines (name field : String) (type : ManagedType) : List String :=
  let param := Text.lower field
  [typeIndent ++ "public partial struct " ++ name] ++
    block typeIndent
      ([memberIndent ++ "public " ++ name ++ "(" ++ type.source ++ " " ++ param ++ ")"] ++
        block memberIndent [memberIndent ++ "    this." ++ field ++ " = " ++ param ++ ";"] ++
        [""] ++ attributeLine memberIndent type.marshalAs? ++
        [memberIndent ++ "public " ++ type.source ++ " " ++ field ++ ";"])

/-- The lines of an imported function. -/
def functionLines (library native name : String) (result : ManagedType)
    (params : List Parameter) (convention : CallingConvention) : List String :=
  callableLines memberIndent
    ("DllImport(" ++ Text.Quoted.encode library ++
      ", CallingConvention = CallingConvention." ++ convention.source ++
      ", EntryPoint = " ++ Text.Quoted.encode native ++ ")")
    "public static extern" name result params

/-- The lines of a declaration called `name` that stands for `native`. Functions are imported from
`library`; a delegate bears a name of its own and is indented by `indent`. -/
def lines (library indent native name : String) : SymbolBody → List String
  | .record isUnion pack fields => recordLines name isUnion pack fields
  | .enumeration underlying members => enumLines name underlying members
  | .wrapper field type => wrapperLines name field type
  | .delegate signature => signature.lines indent
  | .function result params convention =>
    functionLines library native name result params convention

/-- The text of a declaration. -/
def fragment (library indent native name : String) (body : SymbolBody) : String :=
  Text.ofLines (body.lines library indent native name)

end SymbolBody

namespace BindingSymbol

/-- The text of a symbol. -/
def fragment (library : String) (symbol : BindingSymbol) : String :=
  symbol.body.fragment library typeIndent symbol.nativeName symbol.emittedName

end BindingSymbol

end Interop
