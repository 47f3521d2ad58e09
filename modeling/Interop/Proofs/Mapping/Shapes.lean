import Interop.Proofs.Managed.Exposure
import Interop.Proofs.Mapping.Rules
import Interop.Proofs.Native.Canonical
import Interop.Proofs.Native.Parts

/-!
# Which managed types stand where

Not every managed type can be passed everywhere: an array is inline and cannot be a parameter, a
delegate is a reference and cannot share its storage, only a result or a pointee may be `void`.
`Position.admits` is the table of what may stand where, and what a type is mapped to always obeys
it. So do the results and the parameters of the delegates inside it, and an inline array is never
empty and holds plain values (`Mapper.map_fits`).

The table is proved by going once through the rules of mapping. What stands inside a mapped type,
handles included, comes from smaller native types, so the rest is an induction on their size. It
is assumed that the integer type of an enumeration is one: an enumeration that stood for an array
could be the element of another array, and the two would not be flattened into one.
-/

namespace Interop

/-! ## The table -/

/-- A type whose values are plain bits: a scalar, an address or something declared elsewhere. -/
def ManagedType.isValue : ManagedType → Bool
  | .primitive _ | .bool | .handle _ | .named _ => true
  | _ => false

/-- What may stand at a position besides plain values. -/
def Position.admitsSpecial : Position → ManagedType → Bool
  | .field, .string | .field, .text _ | .field, .array _ _ | .field, .delegate _ => true
  | .parameter, .string | .parameter, .delegate _ => true
  | .result, .void | .result, .delegate _ => true
  | .aliasTarget, .text _ | .aliasTarget, .array _ _ | .aliasTarget, .delegate _ => true
  | .pointee, .void | .pointee, .array _ _ => true
  | .arrayElement, .array _ _ => true
  | _, _ => false

/-- Whether a managed type may stand at a position. -/
def Position.admits (position : Position) (type : ManagedType) : Bool :=
  type.isValue || position.admitsSpecial type

/-- The delegate for a signature: as many parameters, each of which may be one, a result that may
be one, and a convention with a name. -/
structure Delegate.Conforms (delegate : Delegate) (signature : Signature) : Prop where
  count : delegate.params.length = signature.params.length
  params : ∀ param ∈ delegate.params, Position.parameter.admits param.type = true
  result : Position.result.admits delegate.result = true
  convention : ∀ code, delegate.convention ≠ .other code

/-! ## Enumerations and nested arrays -/

namespace NativeType

variable {type : NativeType}

/-- Whether a type is an integer, a character or a truth value through typedefs. -/
def isIntegral (type : NativeType) : Bool :=
  match type.resolve.kind with
  | .integer _ _ | .char _ | .bool => true
  | _ => false

/-- The integer types of all enumerations in a type are integral. -/
def EnumsIntegral (type : NativeType) : Prop :=
  ∀ part ∈ type.parts, ∀ integer ∈ part.enumInteger?, integer.isIntegral = true

instance (type : NativeType) : Decidable type.EnumsIntegral :=
  inferInstanceAs (Decidable (∀ part ∈ type.parts, ∀ integer ∈ part.enumInteger?,
    integer.isIntegral = true))

theorem EnumsIntegral.mono {part : NativeType} (h : type.EnumsIntegral)
    (parts : part.parts ⊆ type.parts) : part.EnumsIntegral :=
  fun inner hinner => h inner (parts hinner)

theorem EnumsIntegral.of_mem_types {signature : Signature} {pointee : NativeType}
    {layout : Option Layout} {isConst : Bool}
    (h : (mk (.pointer pointee) layout isConst).EnumsIntegral)
    (found : pointee.function? = some signature) (mem : type ∈ signature.types) :
    type.EnumsIntegral :=
  h.mono (List.Subset.trans (Signature.parts_subset mem)
    (List.Subset.trans (parts_of_function? found) parts_pointee))

/-- What a nest of arrays holds is no array. -/
theorem lengths_nested_element (type : NativeType) : type.nested.element.nested.lengths = [] := by
  fun_induction nested type with
  | case1 name underlying layout isConst element hinner => rw [nested, hinner]
  | case2 name underlying layout isConst inner ih => exact ih
  | case3 element length layout isConst inner =>
      rename_i ih
      exact ih
  | case4 type htypedef harray =>
      obtain ⟨kind, layout, isConst⟩ := type
      cases kind with
      | typedef name underlying => exact absurd rfl (htypedef name underlying layout isConst)
      | array element length => exact absurd rfl (harray element length layout isConst)
      | _ => rfl

theorem lengths_nested_underlying {name : String} {underlying : NativeType}
    {layout : Option Layout} {isConst : Bool}
    (h : (mk (.typedef name underlying) layout isConst).nested.lengths = []) :
    underlying.nested.lengths = [] := by
  rw [nested] at h
  split at h
  next heq => rw [heq]
  next => exact h

end NativeType

/-! ## What a mapping answers -/

namespace Mapper

variable {mapper : Mapper} {type : NativeType} {position : Position} {scope : MapScope}
  {mapped : ManagedType}

theorem isValue_of_scalar? {kind : TypeKind} (h : kind.scalar? = some mapped) :
    mapped.isValue = true := by
  rcases TypeKind.eq_bool_or_primitive_of_scalar? h with rfl | ⟨primitive, rfl⟩ <;> rfl

/-- What a type is mapped to may stand at its position. -/
theorem Maps.admits (h : mapper.Maps type position scope mapped) :
    position.admits mapped = true := by
  induction h with
  | overlapped | aliased | callback | functionAddress | address | decayed | openArray | record
  | nameless | enumeration => rfl
  | scalar fixed => rw [Position.admits, isValue_of_scalar? fixed, Bool.true_or]
  | underlying _ _ _ ih | integer _ _ ih => exact ih
  | void valueless => rcases valueless with rfl | rfl <;> rfl
  | @delegate pointee layout isConst position _ _ _ _ _ _ holds =>
      cases position <;> first | rfl | cases holds
  | @string pointee layout isConst position _ _ text =>
      cases position <;> first | rfl | simp [Position.passesStrings] at text
  | @text element length layout isConst position _ inline _ chars =>
      cases position <;> simp [Position.inlinesText] at inline chars <;> rfl
  | @array element length layout isConst position _ _ inline =>
      cases position <;> simp at inline <;> rfl

/-- An integer type is mapped to a plain value. -/
theorem Maps.isValue_of_isIntegral (h : mapper.Maps type position scope mapped)
    (integral : type.isIntegral = true) : mapped.isValue = true := by
  induction h with
  | overlapped | aliased | callback | functionAddress | address | decayed | openArray | record
  | nameless | enumeration => rfl
  | scalar fixed => exact isValue_of_scalar? fixed
  | underlying _ _ _ ih => exact ih integral
  | void | delegate | string | text | array | integer => cases integral

/-- An array element that nests no further array is a plain value. -/
theorem Maps.isValue_of_arrayElement (h : mapper.Maps type position scope mapped)
    (element : position = .arrayElement) (flat : type.nested.lengths = [])
    (integral : type.EnumsIntegral) : mapped.isValue = true := by
  induction h with
  | overlapped | aliased | callback | functionAddress | address | decayed | openArray | record
  | nameless | enumeration => rfl
  | scalar fixed => exact isValue_of_scalar? fixed
  | underlying _ _ _ ih =>
      exact ih element (NativeType.lengths_nested_underlying flat)
        (integral.mono NativeType.parts_underlying)
  | void valueless => rcases valueless with rfl | rfl <;> cases element
  | delegate _ holds =>
      subst element
      cases holds
  | string _ text =>
      subst element
      simp [Position.passesStrings] at text
  | text | array => cases flat
  | integer _ target =>
      exact target.isValue_of_isIntegral (integral _ (NativeType.mem_parts _) _ rfl)

end Mapper

/-! ## Delegates -/

/-- A delegate in the managed form of a type, with the native signature that stands in the same
place of the type. -/
inductive NativeType.Matches : NativeType → ManagedType → Signature → Delegate → Prop
  | self {type : NativeType} {signature : Signature} {delegate : Delegate}
      (found : type.signature? = some signature) :
      Matches type (.delegate delegate) signature delegate
  | result {type : NativeType} {outer signature : Signature} {delegate inner : Delegate}
      (found : type.signature? = some outer)
      (inside : Matches outer.result delegate.result signature inner) :
      Matches type (.delegate delegate) signature inner
  | param {type : NativeType} {outer signature : Signature} {delegate inner : Delegate} (i : Nat)
      (native : i < outer.params.length) (managed : i < delegate.params.length)
      (found : type.signature? = some outer)
      (inside : Matches outer.params[i] delegate.params[i].type signature inner) :
      Matches type (.delegate delegate) signature inner

/-- A typedef is matched like what it names. -/
theorem NativeType.Matches.typedef {name : String} {underlying : NativeType}
    {layout : Option Layout} {isConst : Bool} {mapped : ManagedType} {signature : Signature}
    {delegate : Delegate} (h : underlying.Matches mapped signature delegate) :
    Matches ⟨.typedef name underlying, layout, isConst⟩ mapped signature delegate := by
  cases h with
  | self found => exact .self found
  | result found inside => exact .result found inside
  | param i native managed found inside => exact .param i native managed found inside

theorem ManagedType.not_exposes_of_isValue {type : ManagedType} {delegate : Delegate}
    (h : type.isValue = true) : ¬ type.Exposes (.delegate delegate) := by
  intro hexposes
  cases hexposes <;> cases h

theorem Signature.callable_ne_other {signature : Signature} {convention : CallingConvention}
    (h : signature.callable = .ok convention) (code : Int32) : convention ≠ .other code := by
  rintro rfl
  rw [callable] at h
  split at h
  · cases h
  · rw [CallingConvention.checked.eq_def] at h
    split at h
    · cases h
    next hother => exact hother _ (Except.ok.inj h)

namespace Mapper

variable {mapper : Mapper} {type : NativeType} {position : Position} {scope : MapScope}
  {mapped : ManagedType}

/-- Each delegate in plain view belongs to a native signature and conforms to it. -/
theorem Maps.exists_conforms (h : mapper.Maps type position scope mapped)
    (integral : type.EnumsIntegral) {delegate : Delegate}
    (exposes : mapped.Exposes (.delegate delegate)) :
    ∃ signature, type.Matches mapped signature delegate ∧ delegate.Conforms signature := by
  induction h with
  | overlapped | aliased | void | callback | functionAddress | string | address | decayed | text
  | openArray | record | nameless | enumeration => cases exposes
  | scalar fixed =>
      exact absurd exposes (ManagedType.not_exposes_of_isValue (isValue_of_scalar? fixed))
  | underlying _ _ _ ih =>
      obtain ⟨signature, hmatches, hconforms⟩ :=
        ih (integral.mono NativeType.parts_underlying) exposes
      exact ⟨signature, hmatches.typedef, hconforms⟩
  | @delegate pointee layout isConst position scope signature result params convention found _ _
      callable returned count _ passed ihresult ihparams =>
      have hintegral : ∀ part ∈ signature.types, part.EnumsIntegral :=
        fun part hpart => integral.of_mem_types found hpart
      cases exposes with
      | self =>
          refine ⟨signature, .self found, count, ?_, returned.admits,
            Signature.callable_ne_other callable⟩
          intro param hparam
          obtain ⟨i, hi, rfl⟩ := List.getElem_of_mem hparam
          exact (passed i hi (count ▸ hi)).admits
      | result inner =>
          obtain ⟨signature', hmatches, hconforms⟩ :=
            ihresult (hintegral _ List.mem_cons_self) inner
          exact ⟨signature', .result found hmatches, hconforms⟩
      | param mem inner =>
          obtain ⟨i, hi, rfl⟩ := List.getElem_of_mem mem
          have hnative : i < signature.params.length := count ▸ hi
          obtain ⟨signature', hmatches, hconforms⟩ := ihparams i hi hnative
            (hintegral _ (List.mem_cons_of_mem _ (List.getElem_mem hnative))) inner
          exact ⟨signature', .param i hnative hi found hmatches, hconforms⟩
  | array _ _ _ item ih =>
      cases exposes with
      | element inner =>
          refine absurd inner (ManagedType.not_exposes_of_isValue ?_)
          exact item.isValue_of_arrayElement rfl (NativeType.lengths_nested_element _)
            (integral.mono (NativeType.parts_nested_element _))
  | integer _ target =>
      refine absurd exposes (ManagedType.not_exposes_of_isValue ?_)
      exact target.isValue_of_isIntegral (integral _ (NativeType.mem_parts _) _ rfl)

end Mapper

/-! ## Arrays and strings -/

/-- A part of a type, also of what stands behind a handle. -/
inductive ManagedType.Contains : ManagedType → ManagedType → Prop
  | self (type : ManagedType) : Contains type type
  | pointee {pointee part : ManagedType} (inner : Contains pointee part) :
      Contains (.handle pointee) part
  | element {element part : ManagedType} {length : UInt64} (inner : Contains element part) :
      Contains (.array element length) part
  | result {signature : Delegate} {part : ManagedType} (inner : Contains signature.result part) :
      Contains (.delegate signature) part
  | param {signature : Delegate} {param : Parameter} {part : ManagedType}
      (mem : param ∈ signature.params) (inner : Contains param.type part) :
      Contains (.delegate signature) part

namespace Mapper

variable {mapper : Mapper} {type : NativeType} {position : Position} {scope : MapScope}
  {mapped part : ManagedType}

/-- Arrays are not empty and hold plain values; there are no strings unless they are wanted. -/
def Allows (mapper : Mapper) : ManagedType → Prop
  | .array element length => length ≠ 0 ∧ element.isValue = true
  | .string | .text _ => mapper.marshalStrings = true
  | _ => True

theorem allows_of_contains_ofPointee {answer : Except MappingError ManagedType}
    (pointee : ∀ type, answer = .ok type → type.Contains part → mapper.Allows part)
    (h : (ManagedType.handle (.ofPointee answer)).Contains part) : mapper.Allows part := by
  cases h with
  | self => trivial
  | pointee inner =>
      cases answer with
      | error cause =>
          cases inner
          trivial
      | ok type =>
          cases type with
          | void =>
              cases inner
              trivial
          | _ => exact pointee _ rfl inner

/-- Everything in a mapped type is allowed, by induction on the size of the native type: what
stands behind a handle is mapped by itself, not by the rule that makes the handle. -/
theorem Maps.allows_of_contains (h : mapper.Maps type position scope mapped)
    (integral : type.EnumsIntegral) (contains : mapped.Contains part) : mapper.Allows part := by
  induction hsize : sizeOf type using Nat.strongRecOn
    generalizing type position scope mapped with
  | ind size ih =>
    subst hsize
    obtain ⟨kind, layout, isConst⟩ := type
    have ih' : ∀ inner : NativeType, inner.parts ⊆ kind.parts → ∀ position scope mapped,
        mapper.Maps inner position scope mapped → mapped.Contains part → mapper.Allows part :=
      fun inner hinner position scope mapped hmaps hcontains =>
        ih _ (NativeType.sizeOf_lt_of_mem_parts (hinner inner.mem_parts)) hmaps
          (integral.mono (List.Subset.trans hinner (List.subset_cons_self _ _))) hcontains rfl
    have hpointee : ∀ pointee : NativeType, pointee.parts ⊆ kind.parts →
        (ManagedType.handle (.ofPointee (mapper.map pointee .pointee scope))).Contains part →
        mapper.Allows part :=
      fun pointee hinner => allows_of_contains_ofPointee fun type hmap =>
        ih' pointee hinner _ _ type (maps_of_map hmap)
    cases h with
    | overlapped | functionAddress =>
        cases contains with
        | self => trivial
        | pointee inner =>
            cases inner
            trivial
    | aliased | void | callback | record | nameless | enumeration =>
        cases contains
        trivial
    | scalar fixed =>
        rcases TypeKind.eq_bool_or_primitive_of_scalar? fixed with rfl | ⟨primitive, rfl⟩ <;>
          (cases contains; trivial)
    | underlying _ _ target => exact ih' _ (List.Subset.refl _) _ _ _ target contains
    | integer _ target => exact ih' _ (List.Subset.refl _) _ _ _ target contains
    | @delegate pointee _ _ _ _ signature result params convention found _ _ _ returned count _
        passed =>
        have hsignature : ∀ inner ∈ signature.types, inner.parts ⊆ pointee.parts :=
          fun inner hinner => List.Subset.trans (Signature.parts_subset hinner)
            (NativeType.parts_of_function? found)
        cases contains with
        | self => trivial
        | result inner => exact ih' _ (hsignature _ List.mem_cons_self) _ _ _ returned inner
        | param mem inner =>
            obtain ⟨i, hi, rfl⟩ := List.getElem_of_mem mem
            have hnative : i < signature.params.length := count ▸ hi
            exact ih' _ (hsignature _ (List.mem_cons_of_mem _ (List.getElem_mem hnative))) _ _ _
              (passed i hi hnative) inner
    | string _ text =>
        cases contains
        simp only [Bool.and_eq_true] at text
        exact text.1.1
    | address => exact hpointee _ (List.Subset.refl _) contains
    | decayed => exact hpointee _ (List.Subset.refl _) contains
    | openArray => exact hpointee _ (List.Subset.refl _) contains
    | text _ _ chars =>
        cases contains
        simp only [Bool.and_eq_true] at chars
        exact chars.1.1.1
    | @array element _ _ _ _ _ _ _ sized _ item =>
        cases contains with
        | self =>
            exact ⟨sized, item.isValue_of_arrayElement rfl (NativeType.lengths_nested_element _)
              (integral.mono (NativeType.parts_nested_element _))⟩
        | element inner =>
            exact ih' _ (NativeType.parts_nested_element element) _ _ _ item inner

/-- What a type is mapped to fits its position. Each delegate in plain view conforms to its native
signature; no array is empty or holds anything but plain values, and there are no strings unless
they are wanted, not even behind handles. -/
theorem map_fits (integral : type.EnumsIntegral)
    (h : mapper.map type position scope = .ok mapped) :
    position.admits mapped = true ∧
    (∀ element length, mapped.Contains (.array element length) →
      length ≠ 0 ∧ element.isValue = true) ∧
    (∀ delegate, mapped.Exposes (.delegate delegate) →
      ∃ signature, type.Matches mapped signature delegate ∧ delegate.Conforms signature) ∧
    (mapper.marshalStrings = false →
      ¬ mapped.Contains .string ∧ ∀ length, ¬ mapped.Contains (.text length)) := by
  have hmaps := maps_of_map h
  refine ⟨hmaps.admits, ?_, fun delegate => hmaps.exists_conforms integral, fun hstrings => ?_⟩
  · intro element length hcontains
    exact hmaps.allows_of_contains integral hcontains
  · constructor
    · intro hcontains
      exact absurd (hmaps.allows_of_contains integral hcontains) (by simp [Allows, hstrings])
    · intro length hcontains
      exact absurd (hmaps.allows_of_contains integral hcontains) (by simp [Allows, hstrings])

/-- A pointer to a function that takes text, a pointer to three pairs of flags and a callback. -/
def listener : NativeType :=
  let flag : NativeType := .enumeration "Flag" (.integer 8 false)
  .pointer (.function .void [.text, .pointer (.array (.array flag 2) 3), .callback])

theorem map_fits_listener :
    listener.EnumsIntegral ∧
    ∃ mapped, (Mapper.mk ∅ true).map listener .field (.ofMember "Source" "listener") = .ok mapped ∧
      mapped.delegates.map (·.name) = ["Source_listener_arg2", "Source_listener"] ∧
      Position.field.admits mapped = true ∧
      (∀ element length, mapped.Contains (.array element length) →
        length ≠ 0 ∧ element.isValue = true) ∧
      ∀ delegate, mapped.Exposes (.delegate delegate) →
        ∃ signature, listener.Matches mapped signature delegate ∧ delegate.Conforms signature := by
  have hintegral : listener.EnumsIntegral := by decide +kernel
  have hnames :
      ((Mapper.mk ∅ true).map listener .field (.ofMember "Source" "listener")).toOption.map
        (fun mapped => mapped.delegates.map (·.name)) =
          some ["Source_listener_arg2", "Source_listener"] := by decide +kernel
  cases hmapped : (Mapper.mk ∅ true).map listener .field (.ofMember "Source" "listener") with
  | error cause =>
      rw [hmapped] at hnames
      cases hnames
  | ok mapped =>
      rw [hmapped] at hnames
      obtain ⟨hadmits, harrays, hdelegates, -⟩ := map_fits hintegral hmapped
      exact ⟨hintegral, mapped, rfl, Option.some.inj hnames, hadmits, harrays, hdelegates⟩

end Mapper

end Interop
