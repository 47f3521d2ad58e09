/-!
# Native types

Types of C declarations as the front end describes them: a kind, the size and alignment when the
front end knows them, and whether the type is qualified `const`. A type may be a typedef at any
level; `NativeType.canonical` removes typedefs everywhere below pointers, arrays and signatures,
while `NativeType.resolve` removes them from the outermost level only. Two types are equivalent
when their canonical forms are equal.
-/

namespace Interop

/-- Size and alignment in bytes. -/
structure Layout where
  size : UInt64
  align : UInt64
deriving DecidableEq, Inhabited

/-- How a native function expects to be called. -/
inductive CallingConvention where
  | c
  | stdCall
  | fastCall
  | thisCall
  /-- A convention that managed code cannot name; `code` is the front end's number for it. -/
  | other (code : Int32)
deriving DecidableEq, Inhabited

mutual

/-- What a native type is. -/
inductive TypeKind where
  | void
  | bool
  /-- Plain, signed or unsigned `char`. -/
  | char (signed : Bool)
  | integer (bits : UInt32) (signed : Bool)
  | float (bits : UInt32)
  | pointer (pointee : NativeType)
  | array (element : NativeType) (length : UInt64)
  /-- An array without a length. -/
  | openArray (element : NativeType)
  | function (signature : Signature)
  /-- A `struct` or `union`; without a name when it has neither a tag nor a typedef name. -/
  | record (name : Option String) (isUnion : Bool)
  | enumeration (name : Option String) (integer : NativeType)
  | typedef (name : String) (underlying : NativeType)
  /-- A type that the front end does not describe structurally. -/
  | unexposed (spelling : String)

/-- A native type with its layout and qualification. -/
structure NativeType where
  kind : TypeKind
  layout : Option Layout
  isConst : Bool

/-- The type of a native function. -/
structure Signature where
  result : NativeType
  params : List NativeType
  variadic : Bool
  convention : CallingConvention

end

/-! ## Equality -/

mutual

/-- Whether two kinds are the same. -/
def TypeKind.same : TypeKind → TypeKind → Bool
  | .void, .void => true
  | .bool, .bool => true
  | .char signed, .char signed' => signed == signed'
  | .integer bits signed, .integer bits' signed' => bits == bits' && signed == signed'
  | .float bits, .float bits' => bits == bits'
  | .pointer pointee, .pointer pointee' => pointee.same pointee'
  | .array element length, .array element' length' => length == length' && element.same element'
  | .openArray element, .openArray element' => element.same element'
  | .function signature, .function signature' => signature.same signature'
  | .record name isUnion, .record name' isUnion' => name == name' && isUnion == isUnion'
  | .enumeration name integer, .enumeration name' integer' => name == name' && integer.same integer'
  | .typedef name underlying, .typedef name' underlying' =>
    name == name' && underlying.same underlying'
  | .unexposed spelling, .unexposed spelling' => spelling == spelling'
  | _, _ => false
termination_by structural left => left

/-- Whether two types are the same. -/
def NativeType.same : NativeType → NativeType → Bool
  | ⟨kind, layout, isConst⟩, ⟨kind', layout', isConst'⟩ =>
    kind.same kind' && layout == layout' && isConst == isConst'
termination_by structural left => left

/-- Whether two signatures are the same. -/
def Signature.same : Signature → Signature → Bool
  | ⟨result, params, variadic, convention⟩, ⟨result', params', variadic', convention'⟩ =>
    result.same result' && NativeType.sameAll params params' && variadic == variadic' &&
      convention == convention'
termination_by structural left => left

/-- Whether two lists hold the same types in the same order. -/
def NativeType.sameAll : List NativeType → List NativeType → Bool
  | [], [] => true
  | type :: types, type' :: types' => type.same type' && NativeType.sameAll types types'
  | _, _ => false
termination_by structural left => left

end

mutual

theorem TypeKind.same_self : ∀ kind : TypeKind, kind.same kind = true
  | .void | .bool | .char _ | .integer _ _ | .float _ | .record _ _ | .unexposed _ => by
    simp [TypeKind.same]
  | .pointer pointee => by simp [TypeKind.same, pointee.same_self]
  | .array element _ => by simp [TypeKind.same, element.same_self]
  | .openArray element => by simp [TypeKind.same, element.same_self]
  | .function signature => by simp [TypeKind.same, signature.same_self]
  | .enumeration _ integer => by simp [TypeKind.same, integer.same_self]
  | .typedef _ underlying => by simp [TypeKind.same, underlying.same_self]

theorem NativeType.same_self : ∀ type : NativeType, type.same type = true
  | ⟨kind, _, _⟩ => by simp [NativeType.same, kind.same_self]

theorem Signature.same_self : ∀ signature : Signature, signature.same signature = true
  | ⟨result, params, _, _⟩ => by
    simp [Signature.same, result.same_self, NativeType.sameAll_self params]

theorem NativeType.sameAll_self : ∀ types : List NativeType, NativeType.sameAll types types = true
  | [] => rfl
  | type :: types => by simp [NativeType.sameAll, type.same_self, NativeType.sameAll_self types]

end

mutual

theorem TypeKind.eq_of_same : ∀ left right : TypeKind, left.same right = true → left = right
  | .pointer left, right | .openArray left, right => by
    cases right <;> simp [TypeKind.same]
    exact left.eq_of_same _
  | .array left _, right | .enumeration _ left, right | .typedef _ left, right => by
    cases right <;> simp [TypeKind.same]
    have := left.eq_of_same
    grind
  | .function left, right => by
    cases right <;> simp [TypeKind.same]
    exact left.eq_of_same _
  | .void, right | .bool, right | .char _, right | .integer _ _, right | .float _, right
  | .record _ _, right | .unexposed _, right => by
    cases right <;> simp [TypeKind.same]

theorem NativeType.eq_of_same : ∀ left right : NativeType, left.same right = true → left = right
  | ⟨kind, _, _⟩, ⟨kind', _, _⟩ => by
    have := kind.eq_of_same kind'
    simp only [NativeType.same, Bool.and_eq_true, beq_iff_eq]
    grind

theorem Signature.eq_of_same : ∀ left right : Signature, left.same right = true → left = right
  | ⟨result, params, _, _⟩, ⟨result', params', _, _⟩ => by
    have := result.eq_of_same result'
    have := NativeType.eq_of_sameAll params params'
    simp only [Signature.same, Bool.and_eq_true, beq_iff_eq]
    grind

theorem NativeType.eq_of_sameAll :
    ∀ left right : List NativeType, NativeType.sameAll left right = true → left = right
  | [], right => by cases right <;> simp [NativeType.sameAll]
  | type :: types, [] => by simp [NativeType.sameAll]
  | type :: types, type' :: types' => by
    have := type.eq_of_same type'
    have := NativeType.eq_of_sameAll types types'
    simp only [NativeType.sameAll, Bool.and_eq_true]
    grind

end

instance : DecidableEq NativeType := fun left right =>
  decidable_of_iff (left.same right = true)
    ⟨left.eq_of_same right, fun h => h ▸ left.same_self⟩

namespace NativeType

/-! ## Building types -/

/-- A type of unknown layout. -/
def ofKind (kind : TypeKind) : NativeType := ⟨kind, none, false⟩

instance : Inhabited NativeType := ⟨ofKind .void⟩

/-- The type with another layout. -/
def withLayout (type : NativeType) (size align : UInt64) : NativeType :=
  { type with layout := some ⟨size, align⟩ }

/-- The type qualified `const`. -/
def constant (type : NativeType) : NativeType := { type with isConst := true }

def void : NativeType := ofKind .void

def bool : NativeType := (ofKind .bool).withLayout 1 1

def char (signed : Bool) : NativeType := (ofKind (.char signed)).withLayout 1 1

/-- The bytes of a scalar of so many bits, rounded down. -/
def bytesOfBits (bits : UInt32) : UInt64 := (bits / 8).toUInt64

def integer (bits : UInt32) (signed : Bool) : NativeType :=
  (ofKind (.integer bits signed)).withLayout (bytesOfBits bits) (bytesOfBits bits)

def float (bits : UInt32) : NativeType :=
  (ofKind (.float bits)).withLayout (bytesOfBits bits) (bytesOfBits bits)

/-- Pointers take eight bytes: the target is a 64-bit one. -/
def pointer (pointee : NativeType) : NativeType :=
  (ofKind (.pointer pointee)).withLayout 8 8

def array (element : NativeType) (length : UInt64) : NativeType :=
  ⟨.array element length,
    element.layout.map fun layout => ⟨layout.size * length, layout.align⟩, false⟩

def openArray (element : NativeType) : NativeType := ofKind (.openArray element)

def function (result : NativeType) (params : List NativeType) : NativeType :=
  ofKind (.function ⟨result, params, false, .c⟩)

def record (name : String) : NativeType := ofKind (.record (some name) false)

def anonymousRecord (isUnion : Bool) : NativeType := ofKind (.record none isUnion)

def enumeration (name : String) (integer : NativeType) : NativeType :=
  ⟨.enumeration (some name) integer, integer.layout, false⟩

def typedef (name : String) (underlying : NativeType) : NativeType :=
  ⟨.typedef name underlying, underlying.layout, false⟩

def unexposed (spelling : String) : NativeType := ofKind (.unexposed spelling)

end NativeType

end Interop
