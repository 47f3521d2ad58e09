import Interop.Json.Decode
import Interop.Native.Unit

/-!
# Native declarations in JSON

The form in which the front end hands over its declarations: a writer and a reader for native
types, declarations and parsed headers. Records are objects with keys in camel case, variants
carry their data under their name, and the data of a variant with several parts is an object with
keys in snake case.

The members of a declaration that are usually the same may be left out. In particular a
declaration without a location does not stand in the header itself.
-/

namespace Interop

open Json

/-! ## Types -/

namespace Layout

def toJson (layout : Layout) : Value :=
  .object [("size", .ofNat layout.size.toNat), ("align", .ofNat layout.align.toNat)]

def ofJson? (value : Value) : Option Layout := do
  let size ← value.required "size" fun part _ => part.uint64?
  let align ← value.required "align" fun part _ => part.uint64?
  some ⟨size, align⟩

end Layout

namespace CallingConvention

def toJson : CallingConvention → Value
  | .c => .text "c"
  | .stdCall => .text "stdCall"
  | .fastCall => .text "fastCall"
  | .thisCall => .text "thisCall"
  | .other code => .object [("other", .integer code.toInt)]

def ofJson? (value : Value) : Option CallingConvention :=
  match value.tagged? with
  | some (.plain "c") => some .c
  | some (.plain "stdCall") => some .stdCall
  | some (.plain "fastCall") => some .fastCall
  | some (.plain "thisCall") => some .thisCall
  | some (.data "other" code _) => code.int32?.map .other
  | _ => none

end CallingConvention

mutual

def TypeKind.toJson : TypeKind → Value
  | .void => .text "void"
  | .bool => .text "bool"
  | .char signed => .object [("char", .object [("signed", .bool signed)])]
  | .integer bits signed =>
    .object [("integer", .object [("bits", .ofNat bits.toNat), ("signed", .bool signed)])]
  | .float bits => .object [("float", .object [("bits", .ofNat bits.toNat)])]
  | .pointer pointee => .object [("pointer", pointee.toJson)]
  | .array element length =>
    .object [("constantArray",
      .object [("element", element.toJson), ("len", .ofNat length.toNat)])]
  | .openArray element => .object [("incompleteArray", element.toJson)]
  | .function signature => .object [("function", signature.toJson)]
  | .record name isUnion =>
    .object [("record", .object [("name", .ofOption .text name), ("is_union", .bool isUnion)])]
  | .enumeration name integer =>
    .object [("enum", .object [("name", .ofOption .text name), ("integer", integer.toJson)])]
  | .typedef name underlying =>
    .object [("typedef", .object [("name", .text name), ("underlying", underlying.toJson)])]
  | .unexposed spelling => .object [("unexposed", .text spelling)]
termination_by structural kind => kind

def NativeType.toJson : NativeType → Value
  | ⟨kind, layout, isConst⟩ =>
    .object [("kind", kind.toJson), ("layout", .ofOption Layout.toJson layout),
      ("isConst", .bool isConst)]
termination_by structural type => type

def Signature.toJson : Signature → Value
  | ⟨result, params, variadic, convention⟩ =>
    .object [("returnType", result.toJson), ("params", .array (NativeType.allToJson params)),
      ("variadic", .bool variadic), ("callingConvention", convention.toJson)]
termination_by structural signature => signature

def NativeType.allToJson : List NativeType → List Value
  | [] => []
  | type :: types => type.toJson :: NativeType.allToJson types
termination_by structural types => types

end

@[simp] theorem NativeType.allToJson_eq_map (types : List NativeType) :
    NativeType.allToJson types = types.map NativeType.toJson := by
  induction types with
  | nil => rfl
  | cons type types ih => simp [NativeType.allToJson, ih]

mutual

def TypeKind.ofJson? (value : Value) : Option TypeKind :=
  match value.tagged? with
  | some (.plain "void") => some .void
  | some (.plain "bool") => some .bool
  | some (.data "char" data _) => do
    let signed ← data.required "signed" fun part _ => part.bool?
    some (.char signed)
  | some (.data "integer" data _) => do
    let bits ← data.required "bits" fun part _ => part.uint32?
    let signed ← data.required "signed" fun part _ => part.bool?
    some (.integer bits signed)
  | some (.data "float" data _) => do
    let bits ← data.required "bits" fun part _ => part.uint32?
    some (.float bits)
  | some (.data "pointer" data _) => (NativeType.ofJson? data).map .pointer
  | some (.data "constantArray" data _) => do
    let element ← data.required "element" fun part _ => NativeType.ofJson? part
    let length ← data.required "len" fun part _ => part.uint64?
    some (.array element length)
  | some (.data "incompleteArray" data _) => (NativeType.ofJson? data).map .openArray
  | some (.data "function" data _) => (Signature.ofJson? data).map .function
  | some (.data "record" data _) => do
    let name ← data.nullable "name" fun part _ => part.text?
    let isUnion ← data.required "is_union" fun part _ => part.bool?
    some (.record name isUnion)
  | some (.data "enum" data _) => do
    let name ← data.nullable "name" fun part _ => part.text?
    let integer ← data.required "integer" fun part _ => NativeType.ofJson? part
    some (.enumeration name integer)
  | some (.data "typedef" data _) => do
    let name ← data.required "name" fun part _ => part.text?
    let underlying ← data.required "underlying" fun part _ => NativeType.ofJson? part
    some (.typedef name underlying)
  | some (.data "unexposed" data _) => data.text?.map .unexposed
  | _ => none
termination_by sizeOf value

def NativeType.ofJson? (value : Value) : Option NativeType := do
  let kind ← value.required "kind" fun part _ => TypeKind.ofJson? part
  let layout ← value.nullable "layout" fun part _ => Layout.ofJson? part
  let isConst ← value.optional "isConst" false fun part _ => part.bool?
  some ⟨kind, layout, isConst⟩
termination_by sizeOf value

def Signature.ofJson? (value : Value) : Option Signature := do
  let result ← value.required "returnType" fun part _ => NativeType.ofJson? part
  let params ← value.required "params" fun list _ =>
    list.elements fun part _ => NativeType.ofJson? part
  let variadic ← value.required "variadic" fun part _ => part.bool?
  let convention ← value.required "callingConvention" fun part _ => CallingConvention.ofJson? part
  some ⟨result, params, variadic, convention⟩
termination_by sizeOf value

end

/-! ## Declarations -/

namespace DeclarationKind

/-- The word for a kind. -/
def word : DeclarationKind → String
  | .translationUnit => "translationUnit"
  | .struct => "struct"
  | .union => "union"
  | .classType => "class"
  | .enumeration => "enum"
  | .enumerator => "enumConstant"
  | .typedef => "typedef"
  | .function => "function"
  | .method => "method"
  | .field => "field"
  | .parameter => "parameter"
  | .variableObject => "variable"
  | .namespaceBlock => "namespace"
  | .linkageBlock => "linkageSpec"
  | .unexposed => "unexposed"
  | .other => "other"

/-- The kind that a word stands for. -/
def ofWord? : String → Option DeclarationKind
  | "translationUnit" => some .translationUnit
  | "struct" => some .struct
  | "union" => some .union
  | "class" => some .classType
  | "enum" => some .enumeration
  | "enumConstant" => some .enumerator
  | "typedef" => some .typedef
  | "function" => some .function
  | "method" => some .method
  | "field" => some .field
  | "parameter" => some .parameter
  | "variable" => some .variableObject
  | "namespace" => some .namespaceBlock
  | "linkageSpec" => some .linkageBlock
  | "unexposed" => some .unexposed
  | "other" => some .other
  | _ => none

theorem ofWord?_word (kind : DeclarationKind) : ofWord? kind.word = some kind := by
  cases kind <;> rfl

end DeclarationKind

namespace Linkage

/-- The word for a linkage. -/
def word : Linkage → String
  | .external => "external"
  | .internal => "internal"
  | .absent => "none"

/-- The linkage that a word stands for. -/
def ofWord? : String → Option Linkage
  | "external" => some .external
  | "internal" => some .internal
  | "none" => some .absent
  | _ => none

theorem ofWord?_word (linkage : Linkage) : ofWord? linkage.word = some linkage := by
  cases linkage <;> rfl

end Linkage

namespace SourceLocation

def toJson (location : SourceLocation) : Value :=
  .object [("file", .ofOption .text location.file), ("line", .ofNat location.line.toNat),
    ("column", .ofNat location.column.toNat), ("isMainFile", .bool location.inMainFile)]

def ofJson? (value : Value) : Option SourceLocation := do
  let file ← value.nullable "file" fun part _ => part.text?
  let line ← value.required "line" fun part _ => part.uint32?
  let column ← value.required "column" fun part _ => part.uint32?
  let inMainFile ← value.required "isMainFile" fun part _ => part.bool?
  some ⟨file, line, column, inMainFile⟩

end SourceLocation

namespace Declaration

mutual

def toJson : Declaration → Value
  | ⟨kind, spelling, type, children, location, isDefinition, isAnonymousMember, linkage,
      enumValue, bitWidth, fieldOffsetBits, underlying⟩ =>
    .object [("kind", .text kind.word), ("spelling", .text spelling), ("type", type.toJson),
      ("children", .array (allToJson children)), ("location", location.toJson),
      ("isDefinition", .bool isDefinition), ("isAnonymousMember", .bool isAnonymousMember),
      ("linkage", .text linkage.word),
      ("enumValue", .ofOption (fun value => .integer value.toInt) enumValue),
      ("bitWidth", .ofOption (fun bits => .ofNat bits.toNat) bitWidth),
      ("fieldOffsetBits", .ofOption (fun bits => .ofNat bits.toNat) fieldOffsetBits),
      ("underlying", .ofOption NativeType.toJson underlying)]
termination_by structural declaration => declaration

def allToJson : List Declaration → List Value
  | [] => []
  | declaration :: declarations => declaration.toJson :: allToJson declarations
termination_by structural declarations => declarations

end

@[simp] theorem allToJson_eq_map (declarations : List Declaration) :
    allToJson declarations = declarations.map toJson := by
  induction declarations with
  | nil => rfl
  | cons declaration declarations ih => simp [allToJson, ih]

def ofJson? (value : Value) : Option Declaration := do
  let kind ← value.required "kind" fun part _ => part.word? >>= DeclarationKind.ofWord?
  let spelling ← value.required "spelling" fun part _ => part.text?
  let type ← value.required "type" fun part _ => NativeType.ofJson? part
  let children ← value.optional "children" [] fun list _ =>
    list.elements fun part _ => ofJson? part
  let location ← value.optional "location" .unknown fun part _ => SourceLocation.ofJson? part
  let isDefinition ← value.optional "isDefinition" false fun part _ => part.bool?
  let isAnonymousMember ← value.optional "isAnonymousMember" false fun part _ => part.bool?
  let linkage ← value.optional "linkage" .external fun part _ => part.word? >>= Linkage.ofWord?
  let enumValue ← value.nullable "enumValue" fun part _ => part.int64?
  let bitWidth ← value.nullable "bitWidth" fun part _ => part.uint32?
  let fieldOffsetBits ← value.nullable "fieldOffsetBits" fun part _ => part.uint64?
  let underlying ← value.nullable "underlying" fun part _ => NativeType.ofJson? part
  some ⟨kind, spelling, type, children, location, isDefinition, isAnonymousMember, linkage,
    enumValue, bitWidth, fieldOffsetBits, underlying⟩
termination_by sizeOf value

end Declaration

/-! ## Headers -/

namespace Severity

/-- The word for a severity. -/
def word : Severity → String
  | .note => "note"
  | .warning => "warning"
  | .error => "error"
  | .fatal => "fatal"

/-- The severity that a word stands for. -/
def ofWord? : String → Option Severity
  | "note" => some .note
  | "warning" => some .warning
  | "error" => some .error
  | "fatal" => some .fatal
  | _ => none

theorem ofWord?_word (severity : Severity) : ofWord? severity.word = some severity := by
  cases severity <;> rfl

end Severity

namespace Diagnostic

def toJson (diagnostic : Diagnostic) : Value :=
  .object [("severity", .text diagnostic.severity.word), ("message", .text diagnostic.message)]

def ofJson? (value : Value) : Option Diagnostic := do
  let severity ← value.required "severity" fun part _ => part.word? >>= Severity.ofWord?
  let message ← value.required "message" fun part _ => part.text?
  some ⟨severity, message⟩

end Diagnostic

namespace TranslationUnit

def toJson (parsed : TranslationUnit) : Value :=
  .object [("path", .text parsed.path), ("root", parsed.root.toJson),
    ("diagnostics", .ofList Diagnostic.toJson parsed.diagnostics)]

def ofJson? (value : Value) : Option TranslationUnit := do
  let path ← value.required "path" fun part _ => part.text?
  let root ← value.required "root" fun part _ => Declaration.ofJson? part
  let diagnostics ← value.optional "diagnostics" [] fun list _ =>
    list.elements fun part _ => Diagnostic.ofJson? part
  some ⟨path, root, diagnostics⟩

end TranslationUnit

namespace ParseFailure

def toJson (failure : ParseFailure) : Value :=
  .object [("path", .text failure.path), ("reason", .text failure.reason),
    ("diagnostics", .ofList Diagnostic.toJson failure.diagnostics)]

def ofJson? (value : Value) : Option ParseFailure := do
  let path ← value.required "path" fun part _ => part.text?
  let reason ← value.required "reason" fun part _ => part.text?
  let diagnostics ← value.nullable "diagnostics" fun list _ =>
    list.elements fun part _ => Diagnostic.ofJson? part
  some ⟨path, reason, diagnostics.getD []⟩

end ParseFailure

end Interop
