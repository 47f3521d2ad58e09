import Interop.Proofs.Managed.Exposure
import Interop.Proofs.Mapping.Rules
import Interop.Proofs.Native.Canonical
import Interop.Proofs.Native.Parts

/-!
# What is stored by value

A field, an array element or a wrapper stores what it holds in place. `NativeType.embeds` lists
the records that a native type stores that way, seen through typedefs; `ManagedType.embedded?` is
the declaration that a managed type stores. The managed side stops at typedefs that the run binds,
so the two are compared one typedef at a time (`Mapper.Maps.storedFrom`).
-/

namespace Interop

/-- The named records that a type stores by value, through typedefs, inline arrays and the
integer types of enumerations. -/
def NativeType.embeds : NativeType → List String
  | ⟨.typedef _ underlying, _, _⟩ => underlying.embeds
  | ⟨.array element _, _, _⟩ => element.embeds
  | ⟨.enumeration _ integer, _, _⟩ => integer.embeds
  | ⟨.record (some name) _, _, _⟩ => [name]
  | _ => []
termination_by structural type => type

namespace NativeType

theorem embeds_of_signature? {type : NativeType} {signature : Signature}
    (h : type.signature? = some signature) : type.embeds = [] := by
  fun_induction signature? type with
  | case1 name underlying layout isConst ih => exact ih h
  | case2 | case3 => rfl
  | case4 => cases h

theorem embeds_of_isChar {type : NativeType} (h : type.isChar = true) : type.embeds = [] := by
  rw [isChar] at h
  fun_induction charConst? type with
  | case1 name underlying layout isConst ih => exact ih (by simpa using h)
  | case2 => rfl
  | case3 => cases h

@[simp] theorem embeds_nested_element (type : NativeType) :
    type.nested.element.embeds = type.embeds := by
  fun_induction nested type with
  | case1 => rfl
  | case2 name underlying layout isConst inner ih => exact ih
  | case3 element length layout isConst inner =>
      rename_i ih
      exact ih
  | case4 => rfl

end NativeType

namespace Mapper

variable {mapper : Mapper} {type : NativeType} {position : Position} {scope : MapScope}
  {mapped : ManagedType}

theorem embeds_eq_nil_of_scalar? {kind : TypeKind} {layout : Option Layout} {isConst : Bool}
    {type : ManagedType} (h : kind.scalar? = some type) :
    (NativeType.mk kind layout isConst).embeds = [] := by
  cases kind <;> simp [TypeKind.scalar?] at h <;> rfl

/-- Whatever holds of all bound records, and of all records that bound typedefs store, holds of
all records that a mapped type stores. -/
theorem Maps.forall_embeds {good : String → Prop}
    (h : mapper.Maps type position scope mapped) (inline : position ≠ .parameter)
    (records : ∀ name ∈ mapper.index.records, good name)
    (aliases : ∀ part ∈ type.parts, ∀ name underlying, part.kind = .typedef name underlying →
      name ∈ mapper.index.aliases → ∀ stored ∈ underlying.embeds, good stored)
    (enums : ∀ part ∈ type.parts, ∀ name integer, part.kind = .enumeration name integer →
      integer.embeds = []) :
    ∀ stored ∈ type.embeds, good stored := by
  induction h with
  | overlapped function =>
      obtain ⟨signature, hsignature⟩ := Option.isSome_iff_exists.mp function
      have hnone := NativeType.embeds_of_signature? hsignature
      simp [NativeType.embeds, hnone]
  | @aliased name underlying _ _ _ _ bound =>
      exact aliases _ (NativeType.mem_parts _) name underlying rfl bound
  | underlying _ _ _ ih =>
      exact ih inline (fun part hpart => aliases part (NativeType.parts_underlying hpart))
        fun part hpart => enums part (NativeType.parts_underlying hpart)
  | scalar fixed => simp [embeds_eq_nil_of_scalar? fixed]
  | decayed => exact absurd rfl inline
  | text _ _ chars =>
      have hchar := NativeType.embeds_of_isChar ((Bool.and_eq_true _ _).mp chars).2
      rw [NativeType.embeds_nested_element] at hchar
      simp [hchar]
  | array _ _ _ _ ih =>
      have hparts := NativeType.parts_nested_element
      rw [← NativeType.embeds_nested_element]
      exact ih nofun (fun part hpart => aliases part (hparts _ hpart))
        fun part hpart => enums part (hparts _ hpart)
  | record bound =>
      intro stored hstored
      cases List.mem_singleton.mp hstored
      exact records _ bound
  | enumeration | integer =>
      have hnone := enums _ (NativeType.mem_parts _) _ _ rfl
      simp [NativeType.embeds, hnone]
  | void | callback | delegate | functionAddress | string | address | openArray | nameless =>
      simp [NativeType.embeds]

/-- Where the declaration that a mapped type stores comes from. A typedef may be that of a
function; any other stores no more than the type that it occurs in. -/
inductive StoredFrom (mapper : Mapper) (scope : MapScope) (type : NativeType) (name : String) :
    Prop
  | given (named : scope.anonymousRecord = some name)
  | record (bound : name ∈ mapper.index.records) (stored : name ∈ type.embeds)
  | enumeration (bound : name ∈ mapper.index.enums)
  | typedef {part underlying : NativeType} (bound : name ∈ mapper.index.aliases)
      (mem : part ∈ type.parts) (kind : part.kind = .typedef name underlying)
      (parts : underlying.parts ⊆ type.parts) (smaller : sizeOf underlying < sizeOf type)
      (target : underlying.signature?.isSome ∨ underlying.embeds ⊆ type.embeds)

theorem StoredFrom.mono {name : String} {inner : NativeType}
    (h : mapper.StoredFrom scope inner name) (parts : inner.parts ⊆ type.parts)
    (embeds : inner.embeds ⊆ type.embeds) (smaller : sizeOf inner < sizeOf type) :
    mapper.StoredFrom scope type name := by
  cases h with
  | given named => exact .given named
  | record bound stored => exact .record bound (embeds stored)
  | enumeration bound => exact .enumeration bound
  | typedef bound mem kind hparts hsmaller target =>
      refine .typedef bound (parts mem) kind (List.Subset.trans hparts parts)
        (Nat.lt_trans hsmaller smaller) ?_
      exact target.imp_right fun hembeds => List.Subset.trans hembeds embeds

end Mapper

end Interop
