import Interop.Proofs.Native.Parts

/-!
# Places in types

A place in a type is given by what stands around it. A `TypeFrame` is a type from which one of the
types that it is made of is taken out, and a `TypeContext` is a type from which any part of it is:
the frames on the way to the part, the outermost first. The parts of a type are what fills the
contexts of it (`NativeType.mem_parts_iff`).

Canonical forms pass through frames: that of a filled frame is the canonical frame, filled with
the canonical form of what is in it. There are two exceptions. A typedef disappears, and an
enumeration is left as it is together with its integer type. So a context in which no frame is
that of an enumeration sees only the canonical form of what fills it
(`TypeContext.equivalent_fill`), and one with such a frame sees all of it
(`TypeContext.eq_of_equivalent_fill`).
-/

namespace Interop

/-! ## Contexts -/

/-- A kind of type from which one of the types that it is made of is taken out. -/
inductive KindFrame where
  | pointer
  | array (length : UInt64)
  | openArray
  | resultOf (params : List NativeType) (variadic : Bool) (convention : CallingConvention)
  | paramOf (result : NativeType) (before after : List NativeType) (variadic : Bool)
      (convention : CallingConvention)
  | enumeration (name : Option String)
  | typedef (name : String)

/-- A type from which one of the types that it is made of is taken out. -/
structure TypeFrame where
  kind : KindFrame
  layout : Option Layout
  isConst : Bool

/-- A type from which one of its parts is taken out: the frames around it, the outermost first. -/
abbrev TypeContext := List TypeFrame

/-- The kind of type with a type put in. -/
def KindFrame.fill : KindFrame → NativeType → TypeKind
  | .pointer, type => .pointer type
  | .array length, type => .array type length
  | .openArray, type => .openArray type
  | .resultOf params variadic convention, type => .function ⟨type, params, variadic, convention⟩
  | .paramOf result before after variadic convention, type =>
    .function ⟨result, before ++ type :: after, variadic, convention⟩
  | .enumeration name, type => .enumeration name type
  | .typedef name, type => .typedef name type

/-- The type with a type put in. -/
def TypeFrame.fill (frame : TypeFrame) (type : NativeType) : NativeType :=
  ⟨frame.kind.fill type, frame.layout, frame.isConst⟩

/-- The type with a part put in. -/
def TypeContext.fill (context : TypeContext) (part : NativeType) : NativeType :=
  context.foldr TypeFrame.fill part

/-- Whether the place is that of the integer type of an enumeration. -/
def TypeFrame.isEnumeration (frame : TypeFrame) : Bool :=
  match frame.kind with
  | .enumeration _ => true
  | _ => false

/-- Whether the place lies in the integer type of an enumeration. -/
def TypeContext.entersEnumeration (context : TypeContext) : Bool :=
  context.any TypeFrame.isEnumeration

namespace TypeContext

variable {frame : TypeFrame} {context inner : TypeContext} {part : NativeType}

@[simp] theorem fill_cons : fill (frame :: context) part = frame.fill (context.fill part) := rfl

theorem fill_append : fill (context ++ inner) part = context.fill (inner.fill part) :=
  List.foldr_append

end TypeContext

mutual

theorem NativeType.exists_fill_eq : ∀ type part : NativeType, part ∈ type.parts →
    ∃ context : TypeContext, context.fill part = type
  | ⟨kind, layout, isConst⟩, part, h => by
    rw [NativeType.parts] at h
    rcases List.mem_cons.mp h with rfl | hkind
    · exact ⟨[], rfl⟩
    · obtain ⟨frame, context, rfl⟩ := kind.exists_fill_eq part hkind
      exact ⟨⟨frame, layout, isConst⟩ :: context, rfl⟩

theorem TypeKind.exists_fill_eq : ∀ (kind : TypeKind) (part : NativeType), part ∈ kind.parts →
    ∃ (frame : KindFrame) (context : TypeContext), frame.fill (context.fill part) = kind
  | .pointer inner, part, h => by
    obtain ⟨context, rfl⟩ := inner.exists_fill_eq part h
    exact ⟨.pointer, context, rfl⟩
  | .array inner length, part, h => by
    obtain ⟨context, rfl⟩ := inner.exists_fill_eq part h
    exact ⟨.array length, context, rfl⟩
  | .openArray inner, part, h => by
    obtain ⟨context, rfl⟩ := inner.exists_fill_eq part h
    exact ⟨.openArray, context, rfl⟩
  | .enumeration name inner, part, h => by
    obtain ⟨context, rfl⟩ := inner.exists_fill_eq part h
    exact ⟨.enumeration name, context, rfl⟩
  | .typedef name inner, part, h => by
    obtain ⟨context, rfl⟩ := inner.exists_fill_eq part h
    exact ⟨.typedef name, context, rfl⟩
  | .function signature, part, h => signature.exists_fill_eq part h
  | .void, _, h | .bool, _, h | .char _, _, h | .integer _ _, _, h | .float _, _, h
  | .record _ _, _, h | .unexposed _, _, h => nomatch h

theorem Signature.exists_fill_eq : ∀ (signature : Signature) (part : NativeType),
    part ∈ signature.parts →
      ∃ (frame : KindFrame) (context : TypeContext),
        frame.fill (context.fill part) = .function signature
  | ⟨result, params, variadic, convention⟩, part, h => by
    rw [Signature.parts] at h
    rcases List.mem_append.mp h with hresult | hparams
    · obtain ⟨context, rfl⟩ := result.exists_fill_eq part hresult
      exact ⟨.resultOf params variadic convention, context, rfl⟩
    · obtain ⟨before, after, context, rfl⟩ := NativeType.exists_fill_mem params part hparams
      exact ⟨.paramOf result before after variadic convention, context, rfl⟩

theorem NativeType.exists_fill_mem : ∀ (types : List NativeType) (part : NativeType),
    part ∈ NativeType.allParts types →
      ∃ (before after : List NativeType) (context : TypeContext),
        before ++ context.fill part :: after = types
  | [], _, h => nomatch h
  | type :: types, part, h => by
    rw [NativeType.allParts] at h
    rcases List.mem_append.mp h with htype | htypes
    · obtain ⟨context, rfl⟩ := type.exists_fill_eq part htype
      exact ⟨[], types, context, rfl⟩
    · obtain ⟨before, after, context, rfl⟩ := NativeType.exists_fill_mem types part htypes
      exact ⟨type :: before, after, context, rfl⟩

end

theorem KindFrame.parts_subset_fill (frame : KindFrame) (type : NativeType) :
    type.parts ⊆ (frame.fill type).parts := by
  cases frame with
  | pointer | array | openArray | enumeration | typedef => exact List.Subset.refl _
  | resultOf params variadic convention => exact List.subset_append_left _ _
  | paramOf result before after variadic convention =>
      apply Signature.parts_subset
      exact List.mem_cons_of_mem _ (List.mem_append_right _ List.mem_cons_self)

theorem TypeFrame.parts_subset_fill (frame : TypeFrame) (type : NativeType) :
    type.parts ⊆ (frame.fill type).parts :=
  List.Subset.trans (frame.kind.parts_subset_fill type) (List.subset_cons_self _ _)

theorem TypeContext.parts_subset_fill (context : TypeContext) (part : NativeType) :
    part.parts ⊆ (context.fill part).parts := by
  induction context with
  | nil => exact List.Subset.refl _
  | cons frame context ih => exact List.Subset.trans ih (frame.parts_subset_fill _)

theorem NativeType.parts_kind_subset (type : NativeType) : type.kind.parts ⊆ type.parts := by
  obtain ⟨kind, layout, isConst⟩ := type
  exact List.subset_cons_self _ _

/-- The parts of a type are what fills the contexts of the type. -/
theorem NativeType.mem_parts_iff {type part : NativeType} :
    part ∈ type.parts ↔ ∃ context : TypeContext, context.fill part = type := by
  constructor
  · exact type.exists_fill_eq part
  · rintro ⟨context, rfl⟩
    exact context.parts_subset_fill part part.mem_parts

/-! ## Canonical forms in contexts -/

namespace KindFrame

theorem fill_injective (frame : KindFrame) : Function.Injective frame.fill := by
  intro left right h
  cases frame <;> simp_all [fill]

/-- The frame without typedefs. -/
def canonical : KindFrame → KindFrame
  | .resultOf params variadic convention =>
    .resultOf (params.map NativeType.canonical) variadic convention
  | .paramOf result before after variadic convention =>
    .paramOf result.canonical (before.map NativeType.canonical) (after.map NativeType.canonical)
      variadic convention
  | frame => frame

end KindFrame

namespace TypeFrame

variable {frame : TypeFrame} {type left right : NativeType}

theorem canonical_fill_of_isEnumeration (h : frame.isEnumeration = true) :
    (frame.fill type).canonical = frame.fill type := by
  obtain ⟨kind, layout, isConst⟩ := frame
  cases kind with
  | enumeration name => rfl
  | _ => cases h

/-- Any other frame either disappears but for its `const`, as a typedef does, or stays around the
canonical form of what fills it. -/
theorem canonical_fill_cases (h : frame.isEnumeration = false) :
    (∀ type, (frame.fill type).canonical =
        { type.canonical with isConst := type.canonical.isConst || frame.isConst }) ∨
      ∀ type, (frame.fill type).canonical =
        ⟨frame.kind.canonical.fill type.canonical, frame.layout, frame.isConst⟩ := by
  obtain ⟨kind, layout, isConst⟩ := frame
  cases kind with
  | enumeration name => cases h
  | typedef name => exact .inl fun _ => rfl
  | pointer | array | openArray => exact .inr fun _ => rfl
  | resultOf params variadic convention =>
      refine .inr fun type => ?_
      rw [fill, KindFrame.fill, NativeType.canonical, Signature.canonical,
        NativeType.canonicalAll_eq_map]
      rfl
  | paramOf result before after variadic convention =>
      refine .inr fun type => ?_
      rw [fill, KindFrame.fill, NativeType.canonical, Signature.canonical,
        NativeType.canonicalAll_eq_map, List.map_append, List.map_cons]
      rfl

theorem canonical_fill_congr (hframe : frame.isEnumeration = false)
    (h : left.canonical = right.canonical) :
    (frame.fill left).canonical = (frame.fill right).canonical := by
  rcases canonical_fill_cases hframe with hgone | hkept
  · rw [hgone, hgone, h]
  · rw [hkept, hkept, h]

theorem kind_canonical_fill_injective (hframe : frame.isEnumeration = false)
    (h : (frame.fill left).canonical.kind = (frame.fill right).canonical.kind) :
    left.canonical.kind = right.canonical.kind := by
  rcases canonical_fill_cases hframe with hgone | hkept
  · rw [hgone, hgone] at h
    exact h
  · rw [hkept, hkept] at h
    rw [frame.kind.canonical.fill_injective h]

theorem parts_subset_canonical_fill (hframe : frame.isEnumeration = false) :
    type.canonical.kind.parts ⊆ (frame.fill type).canonical.kind.parts := by
  rcases canonical_fill_cases hframe with hgone | hkept
  · rw [hgone]
    exact List.Subset.refl _
  · rw [hkept]
    exact List.Subset.trans type.canonical.parts_kind_subset
      (frame.kind.canonical.parts_subset_fill _)

end TypeFrame

namespace TypeContext

variable {context : TypeContext} {part left right : NativeType}

theorem fill_injective (context : TypeContext) : Function.Injective context.fill := by
  induction context with
  | nil => exact Function.injective_id
  | cons frame context ih =>
      intro left right h
      apply ih
      exact frame.kind.fill_injective (congrArg NativeType.kind h)

/-- Being the same up to typedefs is kept in every place outside the integer types of
enumerations. -/
theorem equivalent_fill (hcontext : context.entersEnumeration = false)
    (h : left.Equivalent right) : (context.fill left).Equivalent (context.fill right) := by
  induction context with
  | nil => exact h
  | cons frame context ih =>
      obtain ⟨hframe, hrest⟩ := Bool.or_eq_false_iff.mp hcontext
      exact TypeFrame.canonical_fill_congr hframe (ih hrest)

/-- In the integer type of an enumeration nothing is the same up to typedefs that is not the
same. -/
theorem eq_of_equivalent_fill (hcontext : context.entersEnumeration = true)
    (h : (context.fill left).Equivalent (context.fill right)) : left = right := by
  have hkind := congrArg NativeType.kind h
  clear h
  induction context with
  | nil => cases hcontext
  | cons frame context ih =>
      cases hframe : frame.isEnumeration with
      | true =>
          rw [fill_cons, fill_cons, TypeFrame.canonical_fill_of_isEnumeration hframe,
            TypeFrame.canonical_fill_of_isEnumeration hframe] at hkind
          exact fill_injective context (frame.kind.fill_injective hkind)
      | false =>
          have hrest : entersEnumeration context = true := by
            simpa [entersEnumeration, hframe] using hcontext
          exact ih hrest (TypeFrame.kind_canonical_fill_injective hframe hkind)

/-- What stands in the integer type of an enumeration is still there in the canonical form, below
the type itself. -/
theorem parts_subset_canonical_fill (hcontext : context.entersEnumeration = true) :
    part.parts ⊆ (context.fill part).canonical.kind.parts := by
  induction context with
  | nil => cases hcontext
  | cons frame context ih =>
      cases hframe : frame.isEnumeration with
      | true =>
          rw [fill_cons, TypeFrame.canonical_fill_of_isEnumeration hframe]
          exact List.Subset.trans (parts_subset_fill context part)
            (frame.kind.parts_subset_fill _)
      | false =>
          have hrest : entersEnumeration context = true := by
            simpa [entersEnumeration, hframe] using hcontext
          exact List.Subset.trans (ih hrest) (TypeFrame.parts_subset_canonical_fill hframe)

end TypeContext

end Interop
