import Interop.Codec.Managed
import Interop.Proofs.Codec.Native

/-!
# Binding symbols are read back

What is written for a managed type or for a symbol is read back as it was. With the native
declarations this is the whole of what the front end and the generator exchange in JSON.
-/

namespace Interop

open Json
open Json.Value (elements_map tagged?_object)

/-! ## Types -/

@[simp] theorem ManagedType.toJson_ne_null (type : ManagedType) : type.toJson ≠ .null := by
  cases type <;> simp [ManagedType.toJson]

@[simp] theorem Delegate.toJson_ne_null (signature : Delegate) : signature.toJson ≠ .null := by
  cases signature
  simp [Delegate.toJson]

@[simp] theorem Primitive.ofJson?_text_word (type : Primitive) :
    Primitive.ofJson? (.text type.word) = some type := by
  simp [Primitive.ofJson?, Primitive.ofWord?_word]

mutual

theorem ManagedType.ofJson?_toJson :
    ∀ type : ManagedType, ManagedType.ofJson? type.toJson = some type
  | .void | .bool | .untyped | .string => by rw [ManagedType.toJson, ManagedType.ofJson?]; rfl
  | .primitive _ | .text _ | .named _ => by
    rw [ManagedType.toJson, ManagedType.ofJson?, tagged?_object (by simp)]
    simp
  | .handle pointee => by
    rw [ManagedType.toJson, ManagedType.ofJson?, tagged?_object pointee.toJson_ne_null]
    simp [pointee.ofJson?_toJson]
  | .array element _ => by
    rw [ManagedType.toJson, ManagedType.ofJson?, tagged?_object (by simp)]
    simp [element.ofJson?_toJson]
  | .delegate signature => by
    rw [ManagedType.toJson, ManagedType.ofJson?, tagged?_object signature.toJson_ne_null]
    simp [signature.ofJson?_toJson]

theorem Delegate.ofJson?_toJson :
    ∀ signature : Delegate, Delegate.ofJson? signature.toJson = some signature
  | ⟨name, result, params, convention⟩ => by
    have hparams := elements_map (Parameter.ofJson?_toJson_of_mem params)
    simp [Delegate.toJson, Delegate.ofJson?, result.ofJson?_toJson, hparams]

theorem Parameter.ofJson?_toJson_of_mem : ∀ (params : List Parameter), ∀ param ∈ params,
    Parameter.ofJson? param.toJson = some param
  | [], _, h => by simp at h
  | first :: params, param, h => by
    rcases List.mem_cons.mp h with hfirst | hrest
    · rw [hfirst]
      exact first.ofJson?_toJson
    · exact Parameter.ofJson?_toJson_of_mem params param hrest

theorem Parameter.ofJson?_toJson :
    ∀ param : Parameter, Parameter.ofJson? param.toJson = some param
  | ⟨name, type⟩ => by
    simp [Parameter.toJson, Parameter.ofJson?, type.ofJson?_toJson]

end

/-! ## Symbols -/

@[simp] theorem SymbolKind.ofJson?_text_label (kind : SymbolKind) :
    SymbolKind.ofJson? (.text kind.label) = some kind := by
  simp [SymbolKind.ofJson?, SymbolKind.ofWord?_label]

theorem FieldBinding.ofJson?_toJson (field : FieldBinding) :
    FieldBinding.ofJson? field.toJson = some field := by
  simp [toJson, ofJson?, ManagedType.ofJson?_toJson]

theorem EnumMember.ofJson?_toJson (member : EnumMember) :
    EnumMember.ofJson? member.toJson = some member := by
  simp [toJson, ofJson?]

theorem SymbolBody.ofJson?_toJson (body : SymbolBody) :
    SymbolBody.ofJson? body.toJson = some body := by
  cases body with
  | record isUnion pack fields =>
      have hfields := elements_map fun field (_ : field ∈ fields) => field.ofJson?_toJson
      simp [toJson, ofJson?, tagged?_object, Value.ofList, hfields]
  | enumeration underlying members =>
      have hmembers := elements_map fun member (_ : member ∈ members) => member.ofJson?_toJson
      simp [toJson, ofJson?, tagged?_object, Value.ofList, hmembers]
  | wrapper field type => simp [toJson, ofJson?, tagged?_object, type.ofJson?_toJson]
  | delegate signature => simp [toJson, ofJson?, tagged?_object, signature.ofJson?_toJson]
  | function result params convention =>
      have hparams := elements_map fun param (_ : param ∈ params) => param.ofJson?_toJson
      simp [toJson, ofJson?, tagged?_object, Value.ofList, result.ofJson?_toJson, hparams]

theorem BindingSymbol.ofJson?_toJson (symbol : BindingSymbol) :
    BindingSymbol.ofJson? symbol.toJson = some symbol := by
  simp [toJson, ofJson?, SymbolBody.ofJson?_toJson]

/-! ## Everything -/

/-- Types, declarations, headers and symbols are read back from what is written for them. A
declaration and a header are also read back when, at any depth, members that have their default
are left out. -/
theorem written_is_read_back :
    (∀ type : NativeType, NativeType.ofJson? type.toJson = some type) ∧
    (∀ declaration : Declaration, Declaration.ofJson? declaration.toJson = some declaration) ∧
    (∀ parsed : TranslationUnit, TranslationUnit.ofJson? parsed.toJson = some parsed) ∧
    (∀ type : ManagedType, ManagedType.ofJson? type.toJson = some type) ∧
    (∀ symbol : BindingSymbol, BindingSymbol.ofJson? symbol.toJson = some symbol) ∧
    (∀ (declaration : Declaration) (value : Value), declaration.Represents value →
      Declaration.ofJson? value = some declaration) ∧
    ∀ (parsed : TranslationUnit) (value : Value), parsed.Represents value →
      TranslationUnit.ofJson? value = some parsed := by
  refine ⟨NativeType.ofJson?_toJson, ?_, ?_, ManagedType.ofJson?_toJson,
    BindingSymbol.ofJson?_toJson, Declaration.ofJson?_eq_of_represents, ?_⟩
  · intro declaration
    exact declaration.ofJson?_eq_of_represents _ declaration.represents_toJson
  · intro parsed
    exact TranslationUnit.ofJson?_eq_of_represents parsed.represents_toJson
  · intro parsed value h
    exact TranslationUnit.ofJson?_eq_of_represents h

/-- A field of which nothing is said that may be left out. -/
def sparseField : Declaration :=
  { Declaration.ofType .field "x" .bool with location := .unknown }

/-- A header with a structure of one field, of which nothing more is said either. -/
def sparseHeader : TranslationUnit :=
  ⟨"p.h", { Declaration.ofType .struct "P" .void with
    location := .unknown, children := [sparseField] }, []⟩

/-- The structure, without all that may be left out. -/
def sparseStructValue : Value :=
  .object [("kind", .text "struct"), ("spelling", .text "P"),
    ("type", .object [("kind", .text "void"), ("layout", .null)]),
    ("children", .array [.object [("kind", .text "field"), ("spelling", .text "x"),
      ("type", .object [("kind", .text "bool"),
        ("layout", .object [("size", .integer 1), ("align", .integer 1)])])]])]

theorem represents_sparseStructValue : sparseHeader.root.Represents sparseStructValue := by
  have hvoid := @NativeType.Represents.object .void _ _ .void
    (.of_filter ["isConst"] (by simp [NativeType.IsUsual, NativeType.void, NativeType.ofKind]))
  have hbool := @NativeType.Represents.object .bool _ _ .bool
    (.of_filter ["isConst"] (by simp [NativeType.IsUsual, NativeType.bool, NativeType.ofKind,
      NativeType.withLayout]))
  have hfield := @Declaration.Represents.object sparseField _ _ _ _ hbool .nil .none
    (.of_filter ["children", "location", "isDefinition", "isAnonymousMember", "linkage",
      "enumValue", "bitWidth", "fieldOffsetBits", "underlying"]
      (by simp [Declaration.IsUsual, sparseField, Declaration.ofType]))
  exact @Declaration.Represents.object sparseHeader.root _ _ _ _ hvoid (.cons hfield .nil) .none
    (.of_filter ["location", "isDefinition", "isAnonymousMember", "linkage", "enumValue",
      "bitWidth", "fieldOffsetBits", "underlying"]
      (by simp [Declaration.IsUsual, sparseHeader, Declaration.ofType]))

theorem represents_sparseHeaderValue :
    sparseHeader.Represents (.object [("path", .text "p.h"), ("root", sparseStructValue)]) :=
  .object represents_sparseStructValue
    (.of_filter ["diagnostics"] (by simp [TranslationUnit.IsUsual, sparseHeader]))

/-- The structure and the header are read back although almost nothing is said of them. -/
theorem sparse_header_is_read_back :
    sparseHeader.root.Represents sparseStructValue ∧
    Declaration.ofJson? sparseStructValue = some sparseHeader.root ∧
    TranslationUnit.ofJson? (.object [("path", .text "p.h"), ("root", sparseStructValue)]) =
      some sparseHeader := by
  obtain ⟨-, -, -, -, -, hdeclaration, hheader⟩ := written_is_read_back
  refine ⟨represents_sparseStructValue, ?_, ?_⟩
  · exact hdeclaration _ _ represents_sparseStructValue
  · exact hheader _ _ represents_sparseHeaderValue

end Interop
