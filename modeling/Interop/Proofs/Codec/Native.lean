import Interop.Codec.Native
import Interop.Proofs.Json.Members

/-!
# Native declarations are read back

What is written for a native type, a declaration or a header is read back as it was. More is
true: a type says whether it is const, and a declaration and a header have several members, that
have a default. A value represents a type, a declaration or a header if it is the object that is
written for it, of which at every depth such members may be left out as long as they have their
default. Everything is read back from every value that represents it.
-/

namespace Interop

open Json
open Json.Value (elements_map tagged?_object)

/-! ## Types -/

@[simp] theorem Layout.toJson_ne_null (layout : Layout) : layout.toJson ≠ .null := by
  simp [toJson]

@[simp] theorem Layout.ofJson?_toJson (layout : Layout) :
    Layout.ofJson? layout.toJson = some layout := by
  simp [toJson, ofJson?]

@[simp] theorem CallingConvention.ofJson?_toJson (convention : CallingConvention) :
    CallingConvention.ofJson? convention.toJson = some convention := by
  cases convention with
  | c | stdCall | fastCall | thisCall => rfl
  | other code => simp [toJson, ofJson?, Value.tagged?]

namespace NativeType

/-- The members of the object for a type, given the value for its kind. -/
def membersWith (type : NativeType) (kind : Value) : List (String × Value) :=
  [("kind", kind), ("layout", .ofOption Layout.toJson type.layout),
    ("isConst", .bool type.isConst)]

/-- Whether a member may be left out: that a type is not const. -/
def IsUsual (type : NativeType) : String → Prop
  | "isConst" => type.isConst = false
  | _ => False

end NativeType

mutual

/-- A value represents the kind of a type if it is what is written for it, up to members with
their default in the types that it is made of. -/
inductive TypeKind.Represents : Value → TypeKind → Prop
  | void : TypeKind.Represents (.text "void") .void
  | bool : TypeKind.Represents (.text "bool") .bool
  | char {signed : Bool} : TypeKind.Represents (TypeKind.char signed).toJson (.char signed)
  | integer {bits : UInt32} {signed : Bool} :
    TypeKind.Represents (TypeKind.integer bits signed).toJson (.integer bits signed)
  | float {bits : UInt32} : TypeKind.Represents (TypeKind.float bits).toJson (.float bits)
  | pointer {value : Value} {pointee : NativeType} (nested : NativeType.Represents value pointee) :
    TypeKind.Represents (.object [("pointer", value)]) (.pointer pointee)
  | array {value : Value} {element : NativeType} {length : UInt64}
      (nested : NativeType.Represents value element) :
    TypeKind.Represents (.object [("constantArray", .object [("element", value),
      ("len", .ofNat length.toNat)])]) (.array element length)
  | openArray {value : Value} {element : NativeType}
      (nested : NativeType.Represents value element) :
    TypeKind.Represents (.object [("incompleteArray", value)]) (.openArray element)
  | function {value : Value} {signature : Signature}
      (nested : Signature.Represents value signature) :
    TypeKind.Represents (.object [("function", value)]) (.function signature)
  | record {name : Option String} {isUnion : Bool} :
    TypeKind.Represents (TypeKind.record name isUnion).toJson (.record name isUnion)
  | enumeration {value : Value} {name : Option String} {integer : NativeType}
      (nested : NativeType.Represents value integer) :
    TypeKind.Represents (.object [("enum", .object [("name", .ofOption .text name),
      ("integer", value)])]) (.enumeration name integer)
  | typedef {value : Value} {name : String} {underlying : NativeType}
      (nested : NativeType.Represents value underlying) :
    TypeKind.Represents (.object [("typedef", .object [("name", .text name),
      ("underlying", value)])]) (.typedef name underlying)
  | unexposed {spelling : String} :
    TypeKind.Represents (TypeKind.unexposed spelling).toJson (.unexposed spelling)

inductive NativeType.Represents : Value → NativeType → Prop
  | object {type : NativeType} {kind : Value} {kept : List (String × Value)}
      (nested : TypeKind.Represents kind type.kind)
      (keeps : Value.Keeps (type.membersWith kind) kept type.IsUsual) :
    NativeType.Represents (.object kept) type

inductive Signature.Represents : Value → Signature → Prop
  | object {result : Value} {params : List Value} {signature : Signature}
      (nestedResult : NativeType.Represents result signature.result)
      (nestedParams : List.Forall₂ NativeType.Represents params signature.params) :
    Signature.Represents (.object [("returnType", result), ("params", .array params),
      ("variadic", .bool signature.variadic),
      ("callingConvention", signature.convention.toJson)]) signature

end

theorem NativeType.toJson_eq (type : NativeType) :
    type.toJson = .object (type.membersWith type.kind.toJson) := by
  cases type
  rw [NativeType.toJson, NativeType.membersWith]

theorem NativeType.distinct_membersWith (type : NativeType) (kind : Value) :
    ((type.membersWith kind).map (·.1)).Nodup := by
  simp [NativeType.membersWith]

mutual

theorem TypeKind.represents_toJson : ∀ kind : TypeKind, TypeKind.Represents kind.toJson kind
  | .void => by rw [TypeKind.toJson]; exact .void
  | .bool => by rw [TypeKind.toJson]; exact .bool
  | .char _ => .char
  | .integer _ _ => .integer
  | .float _ => .float
  | .pointer pointee => by rw [TypeKind.toJson]; exact .pointer pointee.represents_toJson
  | .array element _ => by rw [TypeKind.toJson]; exact .array element.represents_toJson
  | .openArray element => by rw [TypeKind.toJson]; exact .openArray element.represents_toJson
  | .function signature => by rw [TypeKind.toJson]; exact .function signature.represents_toJson
  | .record _ _ => .record
  | .enumeration _ integer => by rw [TypeKind.toJson]; exact .enumeration integer.represents_toJson
  | .typedef _ underlying => by rw [TypeKind.toJson]; exact .typedef underlying.represents_toJson
  | .unexposed _ => .unexposed

theorem NativeType.represents_toJson : ∀ type : NativeType, NativeType.Represents type.toJson type
  | ⟨kind, _, _⟩ => by
    rw [NativeType.toJson_eq]
    exact .object kind.represents_toJson (.refl _ _)

theorem Signature.represents_toJson : ∀ signature : Signature,
    Signature.Represents signature.toJson signature
  | ⟨result, params, variadic, convention⟩ => by
    rw [Signature.toJson, NativeType.allToJson_eq_map]
    refine @Signature.Represents.object _ _ ⟨result, params, variadic, convention⟩ ?_ ?_
    · exact result.represents_toJson
    · exact NativeType.represents_map_toJson params

theorem NativeType.represents_map_toJson : ∀ types : List NativeType,
    List.Forall₂ NativeType.Represents (types.map NativeType.toJson) types
  | [] => .nil
  | type :: types => .cons type.represents_toJson (NativeType.represents_map_toJson types)

end

theorem NativeType.Represents.ne_null {value : Value} {type : NativeType}
    (h : NativeType.Represents value type) : value ≠ .null := by
  cases h
  simp

theorem Signature.Represents.ne_null {value : Value} {signature : Signature}
    (h : Signature.Represents value signature) : value ≠ .null := by
  cases h
  simp

mutual

theorem TypeKind.ofJson?_eq_of_represents : ∀ (kind : TypeKind) (value : Value),
    TypeKind.Represents value kind → TypeKind.ofJson? value = some kind
  | .void, _, .void | .bool, _, .bool => by rw [TypeKind.ofJson?]; rfl
  | .char _, _, .char | .integer _ _, _, .integer | .float _, _, .float
  | .record _ _, _, .record | .unexposed _, _, .unexposed => by
    rw [TypeKind.toJson, TypeKind.ofJson?, tagged?_object (by simp)]
    simp
  | .pointer pointee, _, .pointer nested => by
    have hread := pointee.ofJson?_eq_of_represents _ nested
    simp [TypeKind.ofJson?, tagged?_object, nested.ne_null, hread]
  | .array element _, _, .array nested => by
    have hread := element.ofJson?_eq_of_represents _ nested
    simp [TypeKind.ofJson?, tagged?_object, hread]
  | .openArray element, _, .openArray nested => by
    have hread := element.ofJson?_eq_of_represents _ nested
    simp [TypeKind.ofJson?, tagged?_object, nested.ne_null, hread]
  | .function signature, _, .function nested => by
    have hread := signature.ofJson?_eq_of_represents _ nested
    simp [TypeKind.ofJson?, tagged?_object, nested.ne_null, hread]
  | .enumeration _ integer, _, .enumeration nested => by
    have hread := integer.ofJson?_eq_of_represents _ nested
    simp [TypeKind.ofJson?, tagged?_object, hread]
  | .typedef _ underlying, _, .typedef nested => by
    have hread := underlying.ofJson?_eq_of_represents _ nested
    simp [TypeKind.ofJson?, tagged?_object, hread]

theorem NativeType.ofJson?_eq_of_represents : ∀ (type : NativeType) (value : Value),
    NativeType.Represents value type → NativeType.ofJson? value = some type
  | ⟨kind, layout, isConst⟩, _, .object nested keeps => by
    have distinct := NativeType.distinct_membersWith ⟨kind, layout, isConst⟩
    have hlayout := Value.rel_self layout Layout.toJson_ne_null Layout.ofJson?_toJson
    rw [NativeType.ofJson?]
    rw [keeps.required_eq (distinct _) rfl (kind.ofJson?_eq_of_represents _ nested) id]
    rw [keeps.nullable_eq (distinct _) rfl hlayout False.elim]
    rw [keeps.optional_eq (distinct _) rfl (Value.bool?_bool _) id]
    rfl

theorem Signature.ofJson?_eq_of_represents : ∀ (signature : Signature) (value : Value),
    Signature.Represents value signature → Signature.ofJson? value = some signature
  | ⟨result, params, _, _⟩, _, .object nestedResult nestedParams => by
    have hresult := result.ofJson?_eq_of_represents _ nestedResult
    have hparams := NativeType.mapM_ofJson?_of_represents params _ nestedParams
    simp [Signature.ofJson?, hresult, Value.elements_array, hparams]

theorem NativeType.mapM_ofJson?_of_represents : ∀ (types : List NativeType) (values : List Value),
    List.Forall₂ NativeType.Represents values types →
      values.mapM NativeType.ofJson? = some types
  | [], _, .nil => rfl
  | type :: types, value :: values, .cons first rest => by
    rw [List.mapM_cons, type.ofJson?_eq_of_represents value first]
    rw [NativeType.mapM_ofJson?_of_represents types values rest]
    rfl

end

/-- A type is read back from what is written for it. -/
theorem NativeType.ofJson?_toJson (type : NativeType) : ofJson? type.toJson = some type :=
  type.ofJson?_eq_of_represents _ type.represents_toJson

/-! ## Declarations -/

@[simp] theorem SourceLocation.ofJson?_toJson (location : SourceLocation) :
    SourceLocation.ofJson? location.toJson = some location := by
  simp [toJson, ofJson?]

@[simp] theorem Diagnostic.ofJson?_toJson (diagnostic : Diagnostic) :
    Diagnostic.ofJson? diagnostic.toJson = some diagnostic := by
  simp [toJson, ofJson?, Severity.ofWord?_word]

namespace Declaration

variable {declaration : Declaration}

/-- The members of the object for a declaration, given the values for its type, its children and
its underlying type. -/
def membersWith (declaration : Declaration) (type : Value) (children : List Value)
    (underlying : Option Value) : List (String × Value) :=
  [("kind", .text declaration.kind.word), ("spelling", .text declaration.spelling),
    ("type", type), ("children", .array children), ("location", declaration.location.toJson),
    ("isDefinition", .bool declaration.isDefinition),
    ("isAnonymousMember", .bool declaration.isAnonymousMember),
    ("linkage", .text declaration.linkage.word),
    ("enumValue", .ofOption (fun value => .integer value.toInt) declaration.enumValue),
    ("bitWidth", .ofOption (fun bits => .ofNat bits.toNat) declaration.bitWidth),
    ("fieldOffsetBits", .ofOption (fun bits => .ofNat bits.toNat) declaration.fieldOffsetBits),
    ("underlying", .ofOption id underlying)]

/-- Whether a member may be left out, because it has the value that a missing one stands for. -/
def IsUsual (declaration : Declaration) : String → Prop
  | "children" => declaration.children = []
  | "location" => declaration.location = .unknown
  | "isDefinition" => declaration.isDefinition = false
  | "isAnonymousMember" => declaration.isAnonymousMember = false
  | "linkage" => declaration.linkage = .external
  | "enumValue" => declaration.enumValue = none
  | "bitWidth" => declaration.bitWidth = none
  | "fieldOffsetBits" => declaration.fieldOffsetBits = none
  | "underlying" => declaration.underlying = none
  | _ => False

/-- A value represents a declaration if it is the object that is written for it, of which at every
depth some of the usual members may be left out. -/
inductive Represents : Value → Declaration → Prop
  | object {declaration : Declaration} {type : Value} {children : List Value}
      {underlying : Option Value} {kept : List (String × Value)}
      (nestedType : NativeType.Represents type declaration.type)
      (nestedChildren : List.Forall₂ Represents children declaration.children)
      (nestedUnderlying : Option.Rel NativeType.Represents underlying declaration.underlying)
      (keeps : Value.Keeps (declaration.membersWith type children underlying) kept
        declaration.IsUsual) :
    Represents (.object kept) declaration

theorem toJson_eq (declaration : Declaration) :
    declaration.toJson = .object (declaration.membersWith declaration.type.toJson
      (declaration.children.map toJson) (declaration.underlying.map NativeType.toJson)) := by
  obtain ⟨_, _, _, _, _, _, _, _, _, _, _, underlying⟩ := declaration
  cases underlying <;> simp [toJson, membersWith, Value.ofOption]

theorem distinct_membersWith (declaration : Declaration) (type : Value) (children : List Value)
    (underlying : Option Value) :
    ((declaration.membersWith type children underlying).map (·.1)).Nodup := by
  simp [membersWith]

theorem rel_map_toJson (type : Option NativeType) :
    Option.Rel NativeType.Represents (type.map NativeType.toJson) type := by
  cases type with
  | none => exact .none
  | some type => exact .some type.represents_toJson

theorem rel_read {value : Option Value} {type : Option NativeType}
    (h : Option.Rel NativeType.Represents value type) :
    Option.Rel (fun part type => id part ≠ .null ∧ NativeType.ofJson? (id part) = some type)
      value type := by
  cases h with
  | none => exact .none
  | some nested => exact .some ⟨nested.ne_null, NativeType.ofJson?_eq_of_represents _ _ nested⟩

mutual

/-- What is written for a declaration represents it. -/
theorem represents_toJson : ∀ declaration : Declaration, Represents declaration.toJson declaration
  | ⟨_, _, type, children, _, _, _, _, _, _, _, underlying⟩ => by
    rw [toJson_eq]
    exact .object type.represents_toJson (represents_map_toJson children)
      (rel_map_toJson underlying) (.refl _ _)

theorem represents_map_toJson : ∀ declarations : List Declaration,
    List.Forall₂ Represents (declarations.map toJson) declarations
  | [] => .nil
  | declaration :: declarations =>
    .cons (represents_toJson declaration) (represents_map_toJson declarations)

end

mutual

/-- A declaration is read back from every value that represents it. -/
theorem ofJson?_eq_of_represents : ∀ (declaration : Declaration) (value : Value),
    Represents value declaration → ofJson? value = some declaration
  | ⟨kind, spelling, type, children, location, isDefinition, isAnonymousMember, linkage,
      enumValue, bitWidth, fieldOffsetBits, underlying⟩, _,
      .object nestedType nestedChildren nestedUnderlying keeps => by
    have distinct := distinct_membersWith ⟨kind, spelling, type, children, location, isDefinition,
      isAnonymousMember, linkage, enumValue, bitWidth, fieldOffsetBits, underlying⟩
    have hkind : ((Value.text kind.word).word? >>= DeclarationKind.ofWord?) = some kind := by
      simp [DeclarationKind.ofWord?_word]
    have hlinkage : ((Value.text linkage.word).word? >>= Linkage.ofWord?) = some linkage := by
      simp [Linkage.ofWord?_word]
    have htype := type.ofJson?_eq_of_represents _ nestedType
    have hchildren := mapM_ofJson?_of_represents children _ nestedChildren
    have hvalue := Value.rel_self enumValue (by simp) Value.int64?_integer
    have hwidth := Value.rel_self bitWidth (by simp) Value.uint32?_ofNat
    have hoffset := Value.rel_self fieldOffsetBits (by simp) Value.uint64?_ofNat
    rw [ofJson?]
    rw [keeps.required_eq (distinct _ _ _) rfl hkind id]
    rw [keeps.required_eq (distinct _ _ _) rfl (Value.text?_text _) id]
    rw [keeps.required_eq (distinct _ _ _) rfl htype id]
    rw [keeps.optional_eq (distinct _ _ _) rfl (Value.elements_array.trans hchildren) id]
    rw [keeps.optional_eq (distinct _ _ _) rfl location.ofJson?_toJson id]
    rw [keeps.optional_eq (distinct _ _ _) rfl (Value.bool?_bool _) id]
    rw [keeps.optional_eq (distinct _ _ _) rfl (Value.bool?_bool _) id]
    rw [keeps.optional_eq (distinct _ _ _) rfl hlinkage id]
    rw [keeps.nullable_eq (distinct _ _ _) rfl hvalue id]
    rw [keeps.nullable_eq (distinct _ _ _) rfl hwidth id]
    rw [keeps.nullable_eq (distinct _ _ _) rfl hoffset id]
    rw [keeps.nullable_eq (distinct _ _ _) rfl (rel_read nestedUnderlying) id]
    rfl

theorem mapM_ofJson?_of_represents : ∀ (declarations : List Declaration) (values : List Value),
    List.Forall₂ Represents values declarations → values.mapM ofJson? = some declarations
  | [], _, .nil => rfl
  | declaration :: declarations, value :: values, .cons first rest => by
    rw [List.mapM_cons, ofJson?_eq_of_represents declaration value first]
    rw [mapM_ofJson?_of_represents declarations values rest]
    rfl

end

end Declaration

/-! ## Headers -/

namespace TranslationUnit

variable {parsed : TranslationUnit} {value : Value}

/-- The members of the object for a header, given the value for its declarations. -/
def membersWith (parsed : TranslationUnit) (root : Value) : List (String × Value) :=
  [("path", .text parsed.path), ("root", root),
    ("diagnostics", .ofList Diagnostic.toJson parsed.diagnostics)]

/-- Whether a member may be left out: the diagnostics, if there are none. -/
def IsUsual (parsed : TranslationUnit) : String → Prop
  | "diagnostics" => parsed.diagnostics = []
  | _ => False

/-- A value represents a header if it is the object that is written for it, of which at every
depth some of the usual members may be left out. -/
inductive Represents : Value → TranslationUnit → Prop
  | object {parsed : TranslationUnit} {root : Value} {kept : List (String × Value)}
      (declares : Declaration.Represents root parsed.root)
      (keeps : Value.Keeps (parsed.membersWith root) kept parsed.IsUsual) :
      Represents (.object kept) parsed

theorem represents_toJson (parsed : TranslationUnit) : Represents parsed.toJson parsed :=
  .object parsed.root.represents_toJson (.refl _ _)

/-- A header is read back from every value that represents it. -/
theorem ofJson?_eq_of_represents (h : Represents value parsed) : ofJson? value = some parsed := by
  obtain ⟨declares, keeps⟩ := h
  have distinct : ∀ root, ((parsed.membersWith root).map (·.1)).Nodup := by simp [membersWith]
  have hdiagnostics := Value.elements_map fun diagnostic (_ : diagnostic ∈ parsed.diagnostics) =>
    diagnostic.ofJson?_toJson
  rw [ofJson?]
  rw [keeps.required_eq (distinct _) rfl (Value.text?_text _) id]
  rw [keeps.required_eq (distinct _) rfl (Declaration.ofJson?_eq_of_represents _ _ declares) id]
  rw [keeps.optional_eq (distinct _) rfl hdiagnostics id]
  rfl

end TranslationUnit

end Interop
