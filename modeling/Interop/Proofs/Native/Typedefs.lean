import Interop.Proofs.Native.Contexts

/-!
# What is left of typedefs

The canonical form of a type is its own canonical form, and up to typedefs a type is the same as
one in which any part is given another name by a typedef. Neither typedefs nor names are left
anywhere else, but the integer type of an enumeration is left as it is: a typedef in it stays, and
one that is put into it makes a difference. `NativeType.canonical_resolves` says this of every
type.
-/

namespace Interop

namespace NativeType

/-- Whether a type is a typedef. -/
def isTypedef (type : NativeType) : Bool :=
  match type.kind with
  | .typedef _ _ => true
  | _ => false

/-- No part of a type is a typedef, at any depth. -/
def IsTypedefFree (type : NativeType) : Prop := ∀ part ∈ type.parts, part.isTypedef = false

instance (type : NativeType) : Decidable type.IsTypedefFree :=
  inferInstanceAs (Decidable (∀ part ∈ type.parts, part.isTypedef = false))

/-- The integer types of all enumerations that are part of a type. -/
def integers (type : NativeType) : List NativeType := type.parts.filterMap enumInteger?

/-! ## Canonical forms are canonical -/

theorem isTypedef_canonical : ∀ type : NativeType, type.canonical.isTypedef = false
  | ⟨.typedef _ underlying, _, _⟩ => underlying.isTypedef_canonical
  | ⟨.void, _, _⟩ | ⟨.bool, _, _⟩ | ⟨.char _, _, _⟩ | ⟨.integer _ _, _, _⟩ | ⟨.float _, _, _⟩
  | ⟨.pointer _, _, _⟩ | ⟨.array _ _, _, _⟩ | ⟨.openArray _, _, _⟩ | ⟨.function _, _, _⟩
  | ⟨.record _ _, _, _⟩ | ⟨.enumeration _ _, _, _⟩ | ⟨.unexposed _, _, _⟩ => rfl

/-- A `const` of its own passes to the canonical form of a type that is no typedef. -/
theorem canonical_of_const {type : NativeType} (h : type.isTypedef = false) (isConst : Bool) :
    canonical { type with isConst } = { type.canonical with isConst } := by
  obtain ⟨kind, layout, isConst'⟩ := type
  cases kind with
  | typedef name underlying => cases h
  | _ => rfl

end NativeType

mutual

theorem NativeType.canonical_canonical : ∀ type : NativeType,
    type.canonical.canonical = type.canonical
  | ⟨.typedef _ underlying, _, isConst⟩ => by
    rw [NativeType.canonical, NativeType.canonical_of_const underlying.isTypedef_canonical,
      underlying.canonical_canonical]
  | ⟨.pointer pointee, _, _⟩ => by
    rw [NativeType.canonical, NativeType.canonical, pointee.canonical_canonical]
  | ⟨.array element _, _, _⟩ => by
    rw [NativeType.canonical, NativeType.canonical, element.canonical_canonical]
  | ⟨.openArray element, _, _⟩ => by
    rw [NativeType.canonical, NativeType.canonical, element.canonical_canonical]
  | ⟨.function signature, _, _⟩ => by
    rw [NativeType.canonical, NativeType.canonical, signature.canonical_canonical]
  | ⟨.void, _, _⟩ | ⟨.bool, _, _⟩ | ⟨.char _, _, _⟩ | ⟨.integer _ _, _, _⟩ | ⟨.float _, _, _⟩
  | ⟨.record _ _, _, _⟩ | ⟨.enumeration _ _, _, _⟩ | ⟨.unexposed _, _, _⟩ => rfl

theorem Signature.canonical_canonical : ∀ signature : Signature,
    signature.canonical.canonical = signature.canonical
  | ⟨result, params, _, _⟩ => by
    rw [Signature.canonical, Signature.canonical, result.canonical_canonical,
      NativeType.canonicalAll_canonicalAll params]

theorem NativeType.canonicalAll_canonicalAll : ∀ types : List NativeType,
    NativeType.canonicalAll (NativeType.canonicalAll types) = NativeType.canonicalAll types
  | [] => rfl
  | type :: types => by
    rw [NativeType.canonicalAll, NativeType.canonicalAll, type.canonical_canonical,
      NativeType.canonicalAll_canonicalAll types]

end

/-! ## Where typedefs stay -/

namespace NativeType

variable {type part integer : NativeType} {types others : List NativeType}

/-- Whether a type is part of the integer type of an enumeration among some types. -/
def InInteger (types : List NativeType) (part : NativeType) : Prop :=
  ∃ integer ∈ types.filterMap enumInteger?, part ∈ integer.parts

theorem InInteger.mono (h : InInteger types part) (hsubset : types ⊆ others) :
    InInteger others part := by
  obtain ⟨integer, hinteger, hpart⟩ := h
  exact ⟨integer, List.filterMap_subset _ hsubset hinteger, hpart⟩

/-- A typedef in a canonical form is not the form itself. -/
theorem mem_parts_kind_canonical (h : part ∈ type.canonical.parts)
    (htypedef : part.isTypedef = true) : part ∈ type.canonical.kind.parts := by
  have hself := type.isTypedef_canonical
  generalize type.canonical = canonical at h hself ⊢
  obtain ⟨kind, layout, isConst⟩ := canonical
  rcases List.mem_cons.mp h with rfl | hkind
  · rw [hself] at htypedef
    cases htypedef
  · exact hkind

end NativeType

mutual

theorem NativeType.inInteger_of_mem_kind : ∀ type part : NativeType,
    part ∈ type.canonical.kind.parts → part.isTypedef = true →
      NativeType.InInteger type.parts part
  | ⟨.typedef _ underlying, _, _⟩, part, hpart, htypedef => by
    have hunderlying := underlying.inInteger_of_mem_kind part hpart htypedef
    exact hunderlying.mono NativeType.parts_underlying
  | ⟨.pointer inner, _, _⟩, part, hpart, htypedef
  | ⟨.array inner _, _, _⟩, part, hpart, htypedef
  | ⟨.openArray inner, _, _⟩, part, hpart, htypedef => by
    have hinner := inner.inInteger_of_mem_kind part
      (NativeType.mem_parts_kind_canonical hpart htypedef) htypedef
    exact hinner.mono (List.subset_cons_self _ _)
  | ⟨.function signature, _, _⟩, part, hpart, htypedef => by
    have hsignature := signature.inInteger_of_mem_canonical part hpart htypedef
    exact hsignature.mono (List.subset_cons_self _ _)
  | ⟨.enumeration _ integer, _, _⟩, _, hpart, _ =>
    ⟨integer, List.mem_filterMap.mpr ⟨_, NativeType.mem_parts _, rfl⟩, hpart⟩
  | ⟨.void, _, _⟩, _, h, _ | ⟨.bool, _, _⟩, _, h, _ | ⟨.char _, _, _⟩, _, h, _
  | ⟨.integer _ _, _, _⟩, _, h, _ | ⟨.float _, _, _⟩, _, h, _ | ⟨.record _ _, _, _⟩, _, h, _
  | ⟨.unexposed _, _, _⟩, _, h, _ => nomatch h

theorem Signature.inInteger_of_mem_canonical : ∀ (signature : Signature) (part : NativeType),
    part ∈ signature.canonical.parts → part.isTypedef = true →
      NativeType.InInteger signature.parts part
  | ⟨result, params, _, _⟩, part, hpart, htypedef => by
    rw [Signature.canonical, Signature.parts] at hpart
    rcases List.mem_append.mp hpart with hresult | hparams
    · have hin := result.inInteger_of_mem_kind part
        (NativeType.mem_parts_kind_canonical hresult htypedef) htypedef
      exact hin.mono (List.subset_append_left _ _)
    · have hin := NativeType.inInteger_of_mem_canonicalAll params part hparams htypedef
      exact hin.mono (List.subset_append_right _ _)

theorem NativeType.inInteger_of_mem_canonicalAll : ∀ (types : List NativeType) (part : NativeType),
    part ∈ NativeType.allParts (NativeType.canonicalAll types) → part.isTypedef = true →
      NativeType.InInteger (NativeType.allParts types) part
  | [], _, h, _ => nomatch h
  | type :: types, part, hpart, htypedef => by
    rw [NativeType.canonicalAll, NativeType.allParts] at hpart
    rcases List.mem_append.mp hpart with htype | htypes
    · have hin := type.inInteger_of_mem_kind part
        (NativeType.mem_parts_kind_canonical htype htypedef) htypedef
      exact hin.mono (List.subset_append_left _ _)
    · have hin := NativeType.inInteger_of_mem_canonicalAll types part htypes htypedef
      exact hin.mono (List.subset_append_right _ _)

end

namespace NativeType

variable {type part integer : NativeType} {name : String}

theorem exists_context_of_mem_integers (h : integer ∈ type.integers) :
    ∃ context : TypeContext, context.entersEnumeration = true ∧ context.fill integer = type := by
  obtain ⟨holder, hholder, hinteger⟩ := List.mem_filterMap.mp h
  obtain ⟨context, rfl⟩ := mem_parts_iff.mp hholder
  obtain ⟨kind, layout, isConst⟩ := holder
  cases kind with
  | enumeration name inner =>
      cases hinteger
      refine ⟨context ++ [⟨.enumeration name, layout, isConst⟩], ?_, ?_⟩
      · simp [TypeContext.entersEnumeration, TypeFrame.isEnumeration]
      · exact TypeContext.fill_append
  | _ => cases hinteger

/-- The integer type of an enumeration is left as it is. -/
theorem parts_integer_subset_canonical (h : integer ∈ type.integers) :
    integer.parts ⊆ type.canonical.parts := by
  obtain ⟨context, hcontext, rfl⟩ := exists_context_of_mem_integers h
  exact List.Subset.trans (TypeContext.parts_subset_canonical_fill hcontext)
    (parts_kind_subset _)

/-- A canonical form holds no typedef if and only if the integer types of its enumerations hold
none. -/
theorem isTypedefFree_canonical_iff :
    type.canonical.IsTypedefFree ↔ ∀ integer ∈ type.integers, integer.IsTypedefFree := by
  constructor
  · intro h integer hinteger part hpart
    exact h part (parts_integer_subset_canonical hinteger hpart)
  · intro h part hpart
    cases htypedef : part.isTypedef with
    | false => rfl
    | true =>
        obtain ⟨integer, hinteger, hin⟩ :=
          type.inInteger_of_mem_kind part (mem_parts_kind_canonical hpart htypedef) htypedef
        rw [h integer hinteger part hin] at htypedef
        cases htypedef

/-! ## Giving parts other names -/

theorem typedef_equivalent (name : String) (type : NativeType) :
    (typedef name type).Equivalent type := by
  rw [Equivalent, typedef, canonical]
  cases type.canonical with
  | mk kind layout isConst => rw [Bool.or_false]

theorem typedef_ne (name : String) (type : NativeType) : typedef name type ≠ type := by
  intro h
  have hsize := congrArg sizeOf h
  simp only [typedef, NativeType.mk.sizeOf_spec, TypeKind.typedef.sizeOf_spec] at hsize
  omega

/-- Giving a part of a type another name changes nothing up to typedefs if and only if the part
lies in no integer type of an enumeration. -/
theorem equivalent_typedef_iff {context : TypeContext} :
    (context.fill (typedef name part)).Equivalent (context.fill part) ↔
      context.entersEnumeration = false := by
  constructor
  · intro h
    cases hcontext : context.entersEnumeration with
    | false => rfl
    | true => exact absurd (TypeContext.eq_of_equivalent_fill hcontext h) (typedef_ne name part)
  · intro hcontext
    exact TypeContext.equivalent_fill hcontext (typedef_equivalent name part)

/-- Canonical forms are canonical. They hold no typedef if and only if the integer types of the
enumerations in the type hold none; and another name for a part of the type leaves the canonical
form as it is if and only if the part lies in no such integer type. -/
theorem canonical_resolves (type : NativeType) :
    type.canonical.canonical = type.canonical ∧
      (type.canonical.IsTypedefFree ↔ ∀ integer ∈ type.integers, integer.IsTypedefFree) ∧
      ∀ (context : TypeContext) (part : NativeType) (name : String), context.fill part = type →
        ((context.fill (typedef name part)).canonical = type.canonical ↔
          context.entersEnumeration = false) := by
  refine ⟨type.canonical_canonical, isTypedefFree_canonical_iff, ?_⟩
  rintro context part name rfl
  exact equivalent_typedef_iff

/-- An integer by another name. -/
def status : NativeType := typedef "status" int

/-- A text by another name. -/
def caption : NativeType := typedef "caption" text

/-- A pointer to a function with typedefs in its signature, and with an enumeration. -/
def reporter : NativeType := pointer (function status [caption, enumeration "Color" int])

/-- The place of the result in it. -/
def reporterResult : TypeContext :=
  [⟨.pointer, some ⟨8, 8⟩, false⟩,
    ⟨.resultOf [caption, enumeration "Color" int] false .c, none, false⟩]

theorem canonical_resolves_reporter :
    (∀ integer ∈ reporter.integers, integer.IsTypedefFree) ∧ reporter.canonical.IsTypedefFree ∧
      reporterResult.fill status = reporter ∧
      (reporterResult.fill <| typedef "outcome" status).canonical = reporter.canonical := by
  obtain ⟨-, hfree, hplace⟩ := canonical_resolves reporter
  have hintegers : ∀ integer ∈ reporter.integers, integer.IsTypedefFree := by decide
  have hresult : reporterResult.fill status = reporter := rfl
  exact ⟨hintegers, hfree.mpr hintegers, hresult, (hplace _ _ "outcome" hresult).mpr rfl⟩

/-- A byte by another name. -/
def byte : NativeType := typedef "byte" (char false)

/-- An enumeration whose integer type is written with a typedef. -/
def mode : NativeType := enumeration "Mode" byte

/-- The typedef is left in the canonical form, which is another one than without the typedef. -/
theorem not_isTypedefFree_mode :
    ¬ mode.canonical.IsTypedefFree ∧ ¬ mode.Equivalent (enumeration "Mode" (char false)) := by
  decide

end NativeType

end Interop
