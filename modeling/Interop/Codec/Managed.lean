import Interop.Binding.Run
import Interop.Codec.Native

/-!
# Binding symbols in JSON

A writer and a reader for managed types and for the symbols made of them, in the form that the
native declarations have too.
-/

namespace Interop

open Json

/-! ## Types -/

namespace Primitive

/-- The word for a primitive type. -/
def word : Primitive → String
  | .sByte => "sByte"
  | .byte => "byte"
  | .short => "short"
  | .uShort => "uShort"
  | .int => "int"
  | .uInt => "uInt"
  | .long => "long"
  | .uLong => "uLong"
  | .float => "float"
  | .double => "double"

/-- The primitive type that a word stands for. -/
def ofWord? : String → Option Primitive
  | "sByte" => some .sByte
  | "byte" => some .byte
  | "short" => some .short
  | "uShort" => some .uShort
  | "int" => some .int
  | "uInt" => some .uInt
  | "long" => some .long
  | "uLong" => some .uLong
  | "float" => some .float
  | "double" => some .double
  | _ => none

theorem ofWord?_word (type : Primitive) : ofWord? type.word = some type := by
  cases type <;> rfl

def ofJson? (value : Value) : Option Primitive := value.word? >>= ofWord?

end Primitive

mutual

def ManagedType.toJson : ManagedType → Value
  | .void => .text "void"
  | .primitive type => .object [("primitive", .text type.word)]
  | .bool => .text "bool"
  | .handle pointee => .object [("handle", pointee.toJson)]
  | .untyped => .text "opaque"
  | .string => .text "string"
  | .array element length =>
    .object [("byValArray", .object [("element", element.toJson), ("len", .ofNat length.toNat)])]
  | .text length => .object [("byValString", .object [("len", .ofNat length.toNat)])]
  | .delegate signature => .object [("delegate", signature.toJson)]
  | .named name => .object [("named", .text name)]
termination_by structural type => type

def Delegate.toJson : Delegate → Value
  | ⟨name, result, params, convention⟩ =>
    .object [("name", .text name), ("returnType", result.toJson),
      ("params", .array (Parameter.allToJson params)),
      ("callingConvention", convention.toJson)]
termination_by structural signature => signature

def Parameter.allToJson : List Parameter → List Value
  | [] => []
  | param :: params => param.toJson :: Parameter.allToJson params
termination_by structural params => params

def Parameter.toJson : Parameter → Value
  | ⟨name, type⟩ => .object [("name", .text name), ("ty", type.toJson)]
termination_by structural param => param

end

@[simp] theorem Parameter.allToJson_eq_map (params : List Parameter) :
    Parameter.allToJson params = params.map Parameter.toJson := by
  induction params with
  | nil => rfl
  | cons param params ih => simp [Parameter.allToJson, ih]

mutual

def ManagedType.ofJson? (value : Value) : Option ManagedType :=
  match value.tagged? with
  | some (.plain "void") => some .void
  | some (.plain "bool") => some .bool
  | some (.plain "opaque") => some .untyped
  | some (.plain "string") => some .string
  | some (.data "primitive" data _) => (Primitive.ofJson? data).map .primitive
  | some (.data "handle" data _) => (ManagedType.ofJson? data).map .handle
  | some (.data "byValArray" data _) => do
    let element ← data.required "element" fun part _ => ManagedType.ofJson? part
    let length ← data.required "len" fun part _ => part.uint64?
    some (.array element length)
  | some (.data "byValString" data _) => do
    let length ← data.required "len" fun part _ => part.uint64?
    some (.text length)
  | some (.data "delegate" data _) => (Delegate.ofJson? data).map .delegate
  | some (.data "named" data _) => data.text?.map .named
  | _ => none
termination_by sizeOf value

def Delegate.ofJson? (value : Value) : Option Delegate := do
  let name ← value.required "name" fun part _ => part.text?
  let result ← value.required "returnType" fun part _ => ManagedType.ofJson? part
  let params ← value.required "params" fun list _ =>
    list.elements fun part _ => Parameter.ofJson? part
  let convention ← value.required "callingConvention" fun part _ => CallingConvention.ofJson? part
  some ⟨name, result, params, convention⟩
termination_by sizeOf value

def Parameter.ofJson? (value : Value) : Option Parameter := do
  let name ← value.required "name" fun part _ => part.text?
  let type ← value.required "ty" fun part _ => ManagedType.ofJson? part
  some ⟨name, type⟩
termination_by sizeOf value

end

/-! ## Symbols -/

namespace SymbolKind

/-- The kind that a word stands for. -/
def ofWord? : String → Option SymbolKind
  | "struct" => some .struct
  | "typedef" => some .typedef
  | "enum" => some .enumeration
  | "function" => some .function
  | _ => none

theorem ofWord?_label (kind : SymbolKind) : ofWord? kind.label = some kind := by
  cases kind <;> rfl

def ofJson? (value : Value) : Option SymbolKind := value.word? >>= ofWord?

end SymbolKind

namespace FieldBinding

def toJson (field : FieldBinding) : Value :=
  .object [("name", .text field.name), ("nativeName", .text field.nativeName),
    ("ty", field.type.toJson)]

def ofJson? (value : Value) : Option FieldBinding := do
  let name ← value.required "name" fun part _ => part.text?
  let nativeName ← value.required "nativeName" fun part _ => part.text?
  let type ← value.required "ty" fun part _ => ManagedType.ofJson? part
  some ⟨name, nativeName, type⟩

end FieldBinding

namespace EnumMember

def toJson (member : EnumMember) : Value :=
  .object [("name", .text member.name), ("value", .integer member.value.toInt)]

def ofJson? (value : Value) : Option EnumMember := do
  let name ← value.required "name" fun part _ => part.text?
  let number ← value.required "value" fun part _ => part.int64?
  some ⟨name, number⟩

end EnumMember

namespace SymbolBody

def toJson : SymbolBody → Value
  | .record isUnion pack fields =>
    .object [("record", .object [("is_union", .bool isUnion),
      ("pack", .ofOption (fun align => .ofNat align.toNat) pack),
      ("fields", .ofList FieldBinding.toJson fields)])]
  | .enumeration underlying members =>
    .object [("enum", .object [("underlying", .text underlying.word),
      ("members", .ofList EnumMember.toJson members)])]
  | .wrapper field type =>
    .object [("alias", .object [("field", .text field), ("ty", type.toJson)])]
  | .delegate signature => .object [("delegate", signature.toJson)]
  | .function result params convention =>
    .object [("function", .object [("return_type", result.toJson),
      ("params", .ofList Parameter.toJson params),
      ("calling_convention", convention.toJson)])]

def ofJson? (value : Value) : Option SymbolBody :=
  match value.tagged? with
  | some (.data "record" data _) => do
    let isUnion ← data.required "is_union" fun part _ => part.bool?
    let pack ← data.nullable "pack" fun part _ => part.uint64?
    let fields ← data.required "fields" fun list _ =>
      list.elements fun part _ => FieldBinding.ofJson? part
    some (.record isUnion pack fields)
  | some (.data "enum" data _) => do
    let underlying ← data.required "underlying" fun part _ => Primitive.ofJson? part
    let members ← data.required "members" fun list _ =>
      list.elements fun part _ => EnumMember.ofJson? part
    some (.enumeration underlying members)
  | some (.data "alias" data _) => do
    let field ← data.required "field" fun part _ => part.text?
    let type ← data.required "ty" fun part _ => ManagedType.ofJson? part
    some (.wrapper field type)
  | some (.data "delegate" data _) => (Delegate.ofJson? data).map .delegate
  | some (.data "function" data _) => do
    let result ← data.required "return_type" fun part _ => ManagedType.ofJson? part
    let params ← data.required "params" fun list _ =>
      list.elements fun part _ => Parameter.ofJson? part
    let convention ← data.required "calling_convention" fun part _ =>
      CallingConvention.ofJson? part
    some (.function result params convention)
  | _ => none

end SymbolBody

namespace BindingSymbol

def toJson (symbol : BindingSymbol) : Value :=
  .object [("kind", .text symbol.kind.label), ("nativeName", .text symbol.nativeName),
    ("emittedName", .text symbol.emittedName), ("body", symbol.body.toJson)]

def ofJson? (value : Value) : Option BindingSymbol := do
  let kind ← value.required "kind" fun part _ => SymbolKind.ofJson? part
  let nativeName ← value.required "nativeName" fun part _ => part.text?
  let emittedName ← value.required "emittedName" fun part _ => part.text?
  let body ← value.required "body" fun part _ => SymbolBody.ofJson? part
  some ⟨kind, nativeName, emittedName, body⟩

end BindingSymbol

namespace SkippedSymbol

def toJson (entry : SkippedSymbol) : Value :=
  .object [("kind", .text entry.kind.label), ("name", .text entry.name),
    ("reason", .text entry.reason)]

def ofJson? (value : Value) : Option SkippedSymbol := do
  let kind ← value.required "kind" fun part _ => SymbolKind.ofJson? part
  let name ← value.required "name" fun part _ => part.text?
  let reason ← value.required "reason" fun part _ => part.text?
  some ⟨kind, name, reason⟩

end SkippedSymbol

end Interop
