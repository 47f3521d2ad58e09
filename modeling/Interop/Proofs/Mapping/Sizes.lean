import Interop.Proofs.Mapping.References
import Interop.Proofs.Native.Canonical
import Interop.Proofs.Native.Parts

/-!
# The bytes that a mapped type takes

A field that is mapped to a type of another size moves every field after it. `ManagedType.size?`
is the number of bytes that a managed type takes when it is passed to native code, and
`NativeType.size?` what the front end reports of a native one. For types whose layouts follow from
how they are built (`NativeType.IsBuilt`), mapping a field keeps the number of bytes
(`Mapper.map_keepsSize`).

The proof goes through the rules of mapping and treats an element of an array like a field. Nested
arrays are mapped to one array, so the product of their lengths has to count the elements of the
native type; it cannot reach the bound at which the count stops, because each element takes at
least one byte and the whole less than 2 ^ 64.
-/

namespace Interop

/-! ## Sizes -/

/-- The bytes that a managed type takes in native memory. What is declared elsewhere is not
counted. -/
def ManagedType.size? : ManagedType → Option Nat
  | .primitive type => some (type.width / 8)
  | .bool => some 1
  | .handle _ | .string | .delegate _ => some 8
  | .text length => some length.toNat
  | .array element length => element.size?.map (length.toNat * ·)
  | .void | .untyped | .named _ => none
termination_by structural type => type

/-- The size of a native type, when it is known. -/
def NativeType.size? (type : NativeType) : Option Nat := type.layout.map (·.size.toNat)

namespace Primitive

theorem width_of_integer? {bits : UInt32} {signed : Bool} {type : Primitive}
    (h : integer? bits signed = some type) : type.width = bits.toNat := by
  unfold integer? at h
  split at h <;> cases h <;> simp_all [width]

theorem width_of_floating? {bits : UInt32} {type : Primitive} (h : floating? bits = some type) :
    type.width = bits.toNat := by
  unfold floating? at h
  split at h <;> cases h <;> simp_all [width]

theorem width_character (signed : Bool) : (character signed).width = 8 := by
  cases signed <;> rfl

theorem bytes_pos (type : Primitive) : 0 < type.width / 8 := by
  cases type <;> decide

end Primitive

/-! ## Types that are built -/

namespace NativeType

/-- A type made by the ways of building types, none of whose parts is given another layout. The
size of each array fits in 64 bits. -/
inductive IsBuilt : NativeType → Prop
  | void : IsBuilt void
  | bool : IsBuilt bool
  | char (signed : Bool) : IsBuilt (char signed)
  | integer (bits : UInt32) (signed : Bool) : IsBuilt (integer bits signed)
  | float (bits : UInt32) : IsBuilt (float bits)
  | pointer {pointee : NativeType} (target : IsBuilt pointee) : IsBuilt (pointer pointee)
  | array {element : NativeType} {length : UInt64} (item : IsBuilt element)
      (fits : ∀ layout ∈ element.layout, layout.size.toNat * length.toNat < UInt64.size) :
      IsBuilt (array element length)
  | openArray {element : NativeType} (item : IsBuilt element) : IsBuilt (openArray element)
  | function {result : NativeType} {params : List NativeType} (returned : IsBuilt result)
      (passed : ∀ param ∈ params, IsBuilt param) : IsBuilt (function result params)
  | record (name : String) : IsBuilt (record name)
  | anonymousRecord (isUnion : Bool) : IsBuilt (anonymousRecord isUnion)
  | enumeration (name : String) {integer : NativeType} (whole : IsBuilt integer) :
      IsBuilt (enumeration name integer)
  | typedef (name : String) {underlying : NativeType} (target : IsBuilt underlying) :
      IsBuilt (typedef name underlying)
  | unexposed (spelling : String) : IsBuilt (unexposed spelling)
  | constant {type : NativeType} (plain : IsBuilt type) : IsBuilt type.constant

/-- What the kind of a built type says about its size. -/
def IsMeasured (type : NativeType) : Prop :=
  match type.kind with
  | .bool | .char _ => type.size? = some 1
  | .integer bits _ | .float bits => type.size? = some (bits.toNat / 8)
  | .pointer _ => type.size? = some 8
  | .array element length =>
    element.IsBuilt ∧ type.size? = element.size?.map (· * length.toNat)
  | .enumeration _ inner | .typedef _ inner => inner.IsBuilt ∧ type.size? = inner.size?
  | .void | .openArray _ | .function _ | .record _ _ | .unexposed _ => type.size? = none

variable {type : NativeType} {size : Nat}

theorem toNat_bytesOfBits (bits : UInt32) : (bytesOfBits bits).toNat = bits.toNat / 8 := by
  simp [bytesOfBits]

theorem size?_array {element : NativeType} {length : UInt64}
    (fits : ∀ layout ∈ element.layout, layout.size.toNat * length.toNat < UInt64.size) :
    (array element length).size? = element.size?.map (· * length.toNat) := by
  unfold size? array
  cases hlayout : element.layout with
  | none => rfl
  | some layout =>
      have hfits := fits layout hlayout
      simp only [Option.map_some, UInt64.toNat_mul]
      rw [Nat.mod_eq_of_lt hfits]

theorem IsBuilt.isMeasured (built : type.IsBuilt) : type.IsMeasured := by
  induction built with
  | void | bool | char | pointer | openArray | function | record | anonymousRecord
  | unexposed => rfl
  | integer bits | float bits => exact congrArg some (toNat_bytesOfBits bits)
  | array item fits => exact ⟨item, size?_array fits⟩
  | enumeration _ inner | typedef _ inner => exact ⟨inner, rfl⟩
  | constant _ ih => exact ih

/-- The number of elements of nested arrays, which no bound cuts off. -/
def Nested.total (array : Nested) : Nat :=
  array.lengths.foldr (fun length total => length.toNat * total) 1

theorem foldl_lengths (lengths : List UInt64) (start : Nat) :
    lengths.foldl (fun total length => total * length.toNat) start =
      start * lengths.foldr (fun length total => length.toNat * total) 1 := by
  induction lengths generalizing start with
  | nil => simp
  | cons length lengths ih => rw [List.foldl_cons, List.foldr_cons, ih, Nat.mul_assoc]

theorem Nested.toNat_count {array : Nested} (fits : array.total < UInt64.size) :
    array.count.toNat = array.total := by
  have hfold : array.lengths.foldl (fun total length => total * length.toNat) 1 =
      array.total := by
    rw [foldl_lengths, Nat.one_mul, total]
  have hle : array.total ≤ UInt64.size - 1 := by omega
  rw [count, hfold, Nat.min_eq_left hle, UInt64.toNat_ofNat_of_lt' fits]

theorem Nested.toNat_count_pos {array : Nested} (sized : array.count ≠ 0) :
    0 < array.count.toNat :=
  Nat.pos_of_ne_zero fun hzero => sized (UInt64.toNat_inj.mp hzero)

/-- Nested arrays take the bytes of their elements. -/
theorem IsBuilt.size?_nested (built : type.IsBuilt) :
    type.nested.element.IsBuilt ∧
      type.size? = type.nested.element.size?.map (· * type.nested.total) := by
  fun_induction nested type with
  | case1 => simp [built, Nested.total]
  | case2 name underlying layout isConst inner ih =>
      obtain ⟨hunderlying, hsize⟩ := built.isMeasured
      rw [hsize]
      exact ih hunderlying
  | case3 element length layout isConst inner =>
      rename_i ih
      obtain ⟨helement, hsize⟩ := built.isMeasured
      obtain ⟨hitem, hnested⟩ := ih helement
      refine ⟨hitem, ?_⟩
      rw [hsize, hnested, Option.map_map]
      congr 1
      funext bytes
      simp only [Function.comp_apply, Nested.total, List.foldr_cons]
      rw [Nat.mul_assoc, Nat.mul_comm length.toNat]
  | case4 => simp [built, Nested.total]

theorem lt_of_size? (h : type.size? = some size) : size < UInt64.size := by
  obtain ⟨layout, -, rfl⟩ := Option.map_eq_some_iff.mp h
  exact layout.size.toNat_lt_size

/-- The count of the elements is exact when each of them takes at least a byte. -/
theorem IsBuilt.size?_eq_count (built : type.IsBuilt) {bytes : Nat}
    (element : type.nested.element.size? = some bytes) (positive : 0 < bytes) :
    type.size? = some (bytes * type.nested.count.toNat) := by
  have hsize : type.size? = some (bytes * type.nested.total) := by
    rw [built.size?_nested.2, element]
    rfl
  have htotal : type.nested.total < UInt64.size :=
    Nat.lt_of_le_of_lt (Nat.le_mul_of_pos_left _ positive) (lt_of_size? hsize)
  rw [hsize, Nested.toNat_count htotal]

/-- A character takes one byte. -/
theorem IsBuilt.size?_of_isChar (built : type.IsBuilt) (h : type.isChar = true) :
    type.size? = some 1 := by
  rw [isChar] at h
  fun_induction charConst? type with
  | case1 name underlying layout isConst ih =>
      obtain ⟨hunderlying, hsize⟩ := built.isMeasured
      rw [hsize]
      exact ih hunderlying (by simpa using h)
  | case2 => exact built.isMeasured
  | case3 => cases h

/-- A type of known size that leads to a function is the address of one. -/
theorem IsBuilt.eq_of_signature? (built : type.IsBuilt) (h : type.signature?.isSome)
    (measured : type.size? = some size) : size = 8 := by
  fun_induction signature? type with
  | case1 name underlying layout isConst ih =>
      obtain ⟨hunderlying, hsize⟩ := built.isMeasured
      exact ih hunderlying h (hsize.symm.trans measured)
  | case2 signature layout isConst => cases built.isMeasured.symm.trans measured
  | case3 => cases built.isMeasured.symm.trans measured; rfl
  | case4 => cases h

end NativeType

/-- Where a value is stored in place: in a record, in a union or in an array. -/
def Position.isInPlace : Position → Bool
  | .field | .unionField | .arrayElement => true
  | _ => false

theorem Position.isInPlace_of_isField {position : Position} (h : position.isField = true) :
    position.isInPlace = true := by
  cases position <;> first | rfl | cases h

/-- A managed type takes the bytes of a native one, and at least one byte. Nothing is said if
those of the native type are not known. -/
def ManagedType.Fills (mapped : ManagedType) (type : NativeType) : Prop :=
  ∀ size, type.size? = some size → mapped.size? = some size ∧ 0 < size

namespace ManagedType.Fills

variable {type : NativeType} {mapped : ManagedType}

theorem of_size? {size : Nat} (h : type.size? = some size) (managed : mapped.size? = some size)
    (positive : 0 < size) : mapped.Fills type := by
  intro size' hsize
  cases h.symm.trans hsize
  exact ⟨managed, positive⟩

theorem of_unmeasured (h : type.size? = none) : mapped.Fills type := by
  intro size hsize
  cases h.symm.trans hsize

theorem of_size?_eq {other : NativeType} (h : mapped.Fills other)
    (same : type.size? = other.size?) : mapped.Fills type :=
  fun size hsize => h size (same.symm.trans hsize)

end ManagedType.Fills

open ManagedType

namespace Mapper

variable {mapper : Mapper} {type : NativeType} {position : Position} {scope : MapScope}
  {mapped : ManagedType}

theorem fills_of_scalar? {kind : TypeKind} {layout : Option Layout} {isConst : Bool}
    (fixed : kind.scalar? = some mapped) (built : (NativeType.mk kind layout isConst).IsBuilt) :
    mapped.Fills ⟨kind, layout, isConst⟩ := by
  have hmeasured := built.isMeasured
  cases kind with
  | bool =>
      cases fixed
      exact .of_size? hmeasured rfl Nat.one_pos
  | char signed =>
      cases fixed
      refine .of_size? hmeasured ?_ Nat.one_pos
      rw [size?, Primitive.width_character]
  | integer bits signed =>
      obtain ⟨primitive, hprimitive, rfl⟩ := Option.map_eq_some_iff.mp fixed
      refine .of_size? hmeasured ?_ ?_
      · rw [size?, Primitive.width_of_integer? hprimitive]
      · rw [← Primitive.width_of_integer? hprimitive]
        exact primitive.bytes_pos
  | float bits =>
      obtain ⟨primitive, hprimitive, rfl⟩ := Option.map_eq_some_iff.mp fixed
      refine .of_size? hmeasured ?_ ?_
      · rw [size?, Primitive.width_of_floating? hprimitive]
      · rw [← Primitive.width_of_floating? hprimitive]
        exact primitive.bytes_pos
  | _ => cases fixed

/-- An inline array takes the bytes of its elements if each element takes its own. -/
theorem fills_array {item : ManagedType} (built : type.IsBuilt)
    (sized : type.nested.count ≠ 0) (fills : item.Fills type.nested.element) :
    (ManagedType.array item type.nested.count).Fills type := by
  cases helement : type.nested.element.size? with
  | none => exact .of_unmeasured (by rw [built.size?_nested.2, helement]; rfl)
  | some bytes =>
      obtain ⟨hitem, hpositive⟩ := fills bytes helement
      refine .of_size? (built.size?_eq_count helement hpositive) ?_ ?_
      · rw [size?, hitem, Option.map_some, Nat.mul_comm]
      · exact Nat.mul_pos hpositive (NativeType.Nested.toNat_count_pos sized)

/-- An inline text takes the bytes of its characters. -/
theorem fills_text (built : type.IsBuilt) (sized : type.nested.count ≠ 0)
    (chars : type.nested.element.isChar = true) :
    (ManagedType.text type.nested.count).Fills type := by
  have hchar := built.size?_nested.1.size?_of_isChar chars
  have hsize := built.size?_eq_count hchar Nat.one_pos
  rw [Nat.one_mul] at hsize
  exact .of_size? hsize rfl (NativeType.Nested.toNat_count_pos sized)

/-- What stands in place takes the bytes of its native type, by induction on the rules. -/
theorem Maps.fills (h : mapper.Maps type position scope mapped) (built : type.IsBuilt)
    (unlisted : ∀ name, ¬ mapper.index.Lists name) (inPlace : position.isInPlace = true) :
    mapped.Fills type := by
  induction h with
  | overlapped function =>
      intro size hsize
      obtain ⟨hunderlying, heq⟩ := built.isMeasured
      cases hunderlying.eq_of_signature? function (heq.symm.trans hsize)
      exact ⟨rfl, by decide⟩
  | aliased bound => exact absurd (.inr (.inr bound)) (unlisted _)
  | underlying _ _ _ ih =>
      obtain ⟨hunderlying, heq⟩ := built.isMeasured
      exact (ih hunderlying inPlace).of_size?_eq heq
  | void valueless => rcases valueless with rfl | rfl <;> cases inPlace
  | scalar fixed => exact fills_of_scalar? fixed built
  | callback _ _ bound => exact absurd (.inr (.inr (aliasOf?_eq_some_iff.mp bound).1)) (unlisted _)
  | delegate | functionAddress | string | address =>
      exact .of_size? built.isMeasured rfl (by decide)
  | decayed => cases inPlace
  | text _ sized chars =>
      simp only [Bool.and_eq_true] at chars
      exact fills_text built sized chars.2
  | array _ sized _ _ ih => exact fills_array built sized (ih built.size?_nested.1 rfl)
  | openArray | nameless => exact .of_unmeasured built.isMeasured
  | record bound => exact absurd (.inl bound) (unlisted _)
  | enumeration bound => exact absurd (.inr (.inl bound)) (unlisted _)
  | integer _ _ ih =>
      obtain ⟨hinteger, heq⟩ := built.isMeasured
      exact (ih hinteger inPlace).of_size?_eq heq

/-- Without records, enumerations and typedefs of its own, a run maps a field of a built type to
a managed type of the same size, however the type nests arrays and typedefs. -/
theorem map_keepsSize (built : type.IsBuilt) (unlisted : ∀ name, ¬ mapper.index.Lists name)
    (isField : position.isField = true) (h : mapper.map type position scope = .ok mapped)
    {layout : Layout} (measured : type.layout = some layout) :
    mapped.size? = some layout.size.toNat := by
  have hsize : type.size? = some layout.size.toNat := by rw [NativeType.size?, measured]; rfl
  have hfills := (maps_of_map h).fills built unlisted (Position.isInPlace_of_isField isField)
  exact (hfills _ hsize).1

/-- Two rows of three colours. -/
def palette : NativeType :=
  let color : NativeType := .enumeration "Color" (.integer 16 false)
  .array (.ofAlias "row" (.array color.constant 3)) 2

theorem map_keepsSize_palette :
    palette.IsBuilt ∧ (∀ name, ¬ (∅ : SymbolIndex).Lists name) ∧
    Position.field.isField = true ∧
    (Mapper.mk ∅ true).map palette .field (.ofMember "Image" "palette") =
      .ok (.array (.primitive .uShort) 6) ∧
    palette.layout = some ⟨12, 2⟩ ∧
    (ManagedType.array (.primitive .uShort) 6).size? = some 12 := by
  have hbuilt : palette.IsBuilt :=
    .array (.typedef _ (.array (.constant (.enumeration _ (.integer 16 false))) (by decide)))
      (by decide)
  have hunlisted : ∀ name, ¬ (∅ : SymbolIndex).Lists name := by
    rintro name (hrecord | henum | halias)
    · exact NameSet.not_mem_empty name hrecord
    · exact NameSet.not_mem_empty name henum
    · exact NameSet.not_mem_empty name halias
  have hmap : (Mapper.mk ∅ true).map palette .field (.ofMember "Image" "palette") =
      .ok (.array (.primitive .uShort) 6) :=
    Maps.map_eq (.array (by decide) (by decide) rfl (.integer rfl (.scalar rfl)))
  exact ⟨hbuilt, hunlisted, rfl, hmap, rfl, map_keepsSize hbuilt hunlisted rfl hmap rfl⟩

end Mapper

end Interop
