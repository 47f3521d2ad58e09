import Interop.Native.Canonical

/-!
# What typedefs do not change

The mapping rules ask of a type whether it is a function or points to one, whether it is a
character and read-only, and how its inline arrays nest. Each answer is found by looking through
typedefs, and it is the same for a type and for its canonical form, where a `const` on a typedef
has passed to what the typedef names. The answers that do not mention `const` depend on the kind
of a type alone, so the passing does not touch them.
-/

namespace Interop

namespace NativeType

variable {type type' : NativeType} {signature : Signature}

/-! ## Functions -/

theorem function?_of_kind_eq (h : type.kind = type'.kind) : type.function? = type'.function? := by
  obtain ⟨kind, layout, isConst⟩ := type
  obtain ⟨kind', layout', isConst'⟩ := type'
  cases h
  cases kind <;> rfl

theorem function?_canonical (type : NativeType) :
    type.canonical.function? = type.function?.map Signature.canonical := by
  fun_induction function? type with
  | case1 name underlying layout isConst ih =>
      rw [← ih]
      exact function?_of_kind_eq rfl
  | case2 => rfl
  | case3 type htypedef hfunction =>
      obtain ⟨kind, layout, isConst⟩ := type
      cases kind with
      | typedef name underlying => exact absurd rfl (htypedef name underlying layout isConst)
      | function signature => exact absurd rfl (hfunction signature layout isConst)
      | _ => rfl

theorem signature?_of_function? (h : type.function? = some signature) :
    type.signature? = some signature := by
  fun_induction function? type with
  | case1 name underlying layout isConst ih => exact ih h
  | case2 => exact h
  | case3 => cases h

/-- A type that leads to a function without being one is a pointer to it. -/
theorem exists_pointer_of_signature? (h : type.signature? = some signature)
    (hobject : type.function? = none) :
    ∃ pointee, type.canonical.kind = .pointer pointee ∧
      pointee.function? = some signature.canonical := by
  fun_induction signature? type with
  | case1 name underlying layout isConst ih => exact ih h hobject
  | case2 => cases hobject
  | case3 pointee layout isConst =>
      refine ⟨pointee.canonical, rfl, ?_⟩
      rw [function?_canonical, h]
      rfl
  | case4 => cases h

/-! ## Characters -/

theorem charConst?_of_const (type : NativeType) (isConst : Bool) :
    { type with isConst := type.isConst || isConst }.charConst? =
      type.charConst?.map (· || isConst) := by
  obtain ⟨kind, layout, isConst'⟩ := type
  cases kind with
  | typedef name underlying =>
      simp only [charConst?, Option.map_map]
      congr 1
      funext inner
      exact (Bool.or_assoc _ _ _).symm
  | _ => rfl

theorem charConst?_canonical (type : NativeType) : type.canonical.charConst? = type.charConst? := by
  fun_induction charConst? type with
  | case1 name underlying layout isConst ih =>
      rw [← ih]
      exact charConst?_of_const underlying.canonical isConst
  | case2 => rfl
  | case3 type htypedef hchar =>
      obtain ⟨kind, layout, isConst⟩ := type
      cases kind with
      | typedef name underlying => exact absurd rfl (htypedef name underlying layout isConst)
      | char signed => exact absurd rfl (hchar signed layout isConst)
      | _ => rfl

@[simp] theorem isChar_canonical (type : NativeType) : type.canonical.isChar = type.isChar := by
  rw [isChar, charConst?_canonical, isChar]

@[simp] theorem isConstChar_canonical (type : NativeType) :
    type.canonical.isConstChar = type.isConstChar := by
  rw [isConstChar, charConst?_canonical, isConstChar]

/-! ## Nested arrays -/

/-- A type that nests no array is its own element. -/
theorem nested_of_lengths_eq_nil (h : type.nested.lengths = []) : type.nested = ⟨type, []⟩ := by
  fun_induction nested type with
  | case1 => rfl
  | case2 name underlying layout isConst inner ih => simp_all
  | case3 => cases h
  | case4 => rfl

theorem lengths_of_kind_eq (h : type.kind = type'.kind) :
    type.nested.lengths = type'.nested.lengths := by
  obtain ⟨kind, layout, isConst⟩ := type
  obtain ⟨kind', layout', isConst'⟩ := type'
  cases h
  cases kind with
  | typedef name underlying =>
      simp only [nested]
      split <;> rfl
  | _ => rfl

theorem nested_of_kind_eq (h : type.kind = type'.kind) (harray : type.nested.lengths ≠ []) :
    type.nested = type'.nested := by
  obtain ⟨kind, layout, isConst⟩ := type
  obtain ⟨kind', layout', isConst'⟩ := type'
  cases h
  cases kind with
  | typedef name underlying =>
      simp only [nested] at harray ⊢
      split <;> simp_all
  | array element length => rfl
  | _ => exact absurd rfl harray

/-- The canonical form nests arrays of the same lengths over the canonical element. -/
theorem nested_canonical (type : NativeType) :
    type.canonical.nested = ⟨type.nested.element.canonical, type.nested.lengths⟩ := by
  fun_induction nested type with
  | case1 name underlying layout isConst element hinner ih =>
      have hkind : (canonical ⟨.typedef name underlying, layout, isConst⟩).kind =
          underlying.canonical.kind := rfl
      refine nested_of_lengths_eq_nil ((lengths_of_kind_eq hkind).trans ?_)
      rw [ih, hinner]
  | case2 name underlying layout isConst inner ih =>
      have hkind : (canonical ⟨.typedef name underlying, layout, isConst⟩).kind =
          underlying.canonical.kind := rfl
      rw [← ih]
      refine nested_of_kind_eq hkind fun hnil => ?_
      rw [lengths_of_kind_eq hkind, ih] at hnil
      exact inner underlying (nested_of_lengths_eq_nil hnil)
  | case3 element length layout isConst inner =>
      rename_i ih
      rw [canonical, nested, ih]
  | case4 type htypedef harray =>
      obtain ⟨kind, layout, isConst⟩ := type
      cases kind with
      | typedef name underlying => exact absurd rfl (htypedef name underlying layout isConst)
      | array element length => exact absurd rfl (harray element length layout isConst)
      | _ => rfl

end NativeType

end Interop
