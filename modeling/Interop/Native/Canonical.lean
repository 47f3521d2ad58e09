import Interop.Native.Type

/-!
# Looking through typedefs

A typedef is another name for its underlying type. `NativeType.canonical` writes a type without
the typedefs met below pointers, arrays and signatures, a `const` on a typedef passing to what it
names; `NativeType.resolve` looks through the outermost ones only. What the mapping rules ask of
a type is asked here through typedefs: whether it is a function or points to one, whether it is a
read-only character, and how its inline arrays nest. Each of these answers comes with the size
bound that makes recursion into its parts well-founded.
-/

namespace Interop

mutual

/-- The type without typedefs. The integer type of an enumeration is left as it is. -/
def NativeType.canonical : NativeType → NativeType
  | ⟨.typedef _ underlying, _, isConst⟩ =>
    let target := underlying.canonical
    { target with isConst := target.isConst || isConst }
  | ⟨.pointer pointee, layout, isConst⟩ => ⟨.pointer pointee.canonical, layout, isConst⟩
  | ⟨.array element length, layout, isConst⟩ =>
    ⟨.array element.canonical length, layout, isConst⟩
  | ⟨.openArray element, layout, isConst⟩ => ⟨.openArray element.canonical, layout, isConst⟩
  | ⟨.function signature, layout, isConst⟩ => ⟨.function signature.canonical, layout, isConst⟩
  | type => type
termination_by structural type => type

/-- The signature without typedefs. -/
def Signature.canonical : Signature → Signature
  | ⟨result, params, variadic, convention⟩ =>
    ⟨result.canonical, NativeType.canonicalAll params, variadic, convention⟩
termination_by structural signature => signature

/-- Each type of a list without typedefs. -/
def NativeType.canonicalAll : List NativeType → List NativeType
  | [] => []
  | type :: types => type.canonical :: NativeType.canonicalAll types
termination_by structural types => types

end

@[simp] theorem NativeType.canonicalAll_eq_map (types : List NativeType) :
    NativeType.canonicalAll types = types.map NativeType.canonical := by
  induction types with
  | nil => rfl
  | cons type types ih => simp [NativeType.canonicalAll, ih]

namespace NativeType

/-- Whether two types are the same up to typedefs. -/
def Equivalent (left right : NativeType) : Prop := left.canonical = right.canonical

instance (left right : NativeType) : Decidable (left.Equivalent right) :=
  inferInstanceAs (Decidable (left.canonical = right.canonical))

/-- The type without its outermost typedefs. -/
def resolve : NativeType → NativeType
  | ⟨.typedef _ underlying, _, _⟩ => underlying.resolve
  | type => type
termination_by structural type => type

/-! ## Function types -/

/-- The signature of a function type. -/
def function? : NativeType → Option Signature
  | ⟨.typedef _ underlying, _, _⟩ => underlying.function?
  | ⟨.function signature, _, _⟩ => some signature
  | _ => none
termination_by structural type => type

/-- The signature of a function type or of a pointer to one. -/
def signature? : NativeType → Option Signature
  | ⟨.typedef _ underlying, _, _⟩ => underlying.signature?
  | ⟨.function signature, _, _⟩ => some signature
  | ⟨.pointer pointee, _, _⟩ => pointee.function?
  | _ => none
termination_by structural type => type

end NativeType

/-- The result and parameter types of a signature. -/
def Signature.types (signature : Signature) : List NativeType :=
  signature.result :: signature.params

namespace Signature

theorem sizeOf_lt_of_mem_types {signature : Signature} {type : NativeType}
    (h : type ∈ signature.types) : sizeOf type < sizeOf signature := by
  obtain ⟨result, params, variadic, convention⟩ := signature
  rcases List.mem_cons.mp h with rfl | hmem
  · simp only [Signature.mk.sizeOf_spec]
    omega
  · have : sizeOf type < sizeOf params := List.sizeOf_lt_of_mem hmem
    simp only [Signature.mk.sizeOf_spec]
    omega

end Signature

namespace NativeType

theorem sizeOf_lt_of_function? {type : NativeType} {signature : Signature}
    (h : type.function? = some signature) : sizeOf signature < sizeOf type := by
  fun_induction function? type with
  | case1 _ underlying _ _ ih =>
    have := ih h
    simp only [NativeType.mk.sizeOf_spec, TypeKind.typedef.sizeOf_spec]
    omega
  | case2 =>
    cases h
    simp only [NativeType.mk.sizeOf_spec, TypeKind.function.sizeOf_spec]
    omega
  | case3 => cases h

/-! ## Characters -/

/-- For a type that is a character through typedefs, whether it is qualified `const` on the way. -/
def charConst? : NativeType → Option Bool
  | ⟨.typedef _ underlying, _, isConst⟩ => underlying.charConst?.map (· || isConst)
  | ⟨.char _, _, isConst⟩ => some isConst
  | _ => none
termination_by structural type => type

/-- Whether a type is a character through typedefs. -/
def isChar (type : NativeType) : Bool := type.charConst?.isSome

/-- Whether a type is a character through typedefs, `const` at some level. -/
def isConstChar (type : NativeType) : Bool := type.charConst? = some true

/-! ## Nested arrays -/

/-- An inline array of any number of dimensions. -/
structure Nested where
  /-- What the innermost array holds. -/
  element : NativeType
  /-- The lengths, the outermost first; none for a type that is no inline array. -/
  lengths : List UInt64

/-- The inline arrays that a type nests, each through its typedefs. The element keeps its own
typedefs. -/
def nested : NativeType → Nested
  | ⟨.typedef name underlying, layout, isConst⟩ =>
    match underlying.nested with
    | ⟨_, []⟩ => ⟨⟨.typedef name underlying, layout, isConst⟩, []⟩
    | inner => inner
  | ⟨.array element length, _, _⟩ =>
    let inner := element.nested
    ⟨inner.element, length :: inner.lengths⟩
  | type => ⟨type, []⟩
termination_by structural type => type

/-- The number of innermost elements, at most the largest 64-bit number. -/
def Nested.count (array : Nested) : UInt64 :=
  UInt64.ofNat (min (array.lengths.foldl (fun total length => total * length.toNat) 1)
    (UInt64.size - 1))

theorem sizeOf_nested_element_le (type : NativeType) :
    sizeOf type.nested.element ≤ sizeOf type := by
  fun_induction nested type with
  | case1 => simp
  | case2 _ underlying _ _ inner ih =>
    simp only [NativeType.mk.sizeOf_spec, TypeKind.typedef.sizeOf_spec]
    grind
  | case3 element _ _ _ inner ih =>
    simp only [NativeType.mk.sizeOf_spec, TypeKind.array.sizeOf_spec]
    grind
  | case4 => simp

theorem sizeOf_nested_element_lt {element : NativeType} {length : UInt64}
    {layout : Option Layout} {isConst : Bool} :
    sizeOf (mk (.array element length) layout isConst).nested.element <
      sizeOf (mk (.array element length) layout isConst) := by
  have := sizeOf_nested_element_le element
  simp only [nested, NativeType.mk.sizeOf_spec, TypeKind.array.sizeOf_spec]
  omega

end NativeType

end Interop
