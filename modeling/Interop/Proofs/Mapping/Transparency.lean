import Interop.Proofs.Mapping.Rules
import Interop.Proofs.Native.Canonical
import Interop.Proofs.Native.Parts

/-!
# Typedefs that the run does not bind

A typedef that the run binds stands for itself. When it binds none, a typedef is another way to
write what it names, at every level: below pointers, in arrays, and in the signatures behind
function pointers. So a type is mapped like its canonical form (`Mapper.map_canonical`).

One place tells them apart. A union may hold no delegate, and a typedef that leads to a function
there is an address, by whichever name the function is known; a function type that is written out
has no managed form.
-/

namespace Interop

/-- A typedef for a function type, not for a pointer to one. -/
def NativeType.NamesFunction (type : NativeType) : Prop :=
  (∃ name underlying, type.kind = .typedef name underlying) ∧ type.function?.isSome

theorem NativeType.NamesFunction.isSome_signature? {type : NativeType} (h : type.NamesFunction) :
    type.signature?.isSome := by
  obtain ⟨signature, hfunction⟩ := Option.isSome_iff_exists.mp h.2
  exact Option.isSome_iff_exists.mpr ⟨signature, signature?_of_function? hfunction⟩

/-! ## Signatures -/

theorem Parameter.ofTypes_canonical {owner : String} {names : List String} {index : Nat}
    {types : List NativeType} {mapType : NativeType → MapScope → Except MappingError ManagedType}
    (same : ∀ type ∈ types, ∀ scope, mapType type.canonical scope = mapType type scope) :
    ofTypes owner names index (NativeType.canonicalAll types) (fun type _ => mapType type) =
      ofTypes owner names index types (fun type _ => mapType type) := by
  induction types generalizing index with
  | nil => rfl
  | cons type types ih =>
      rw [NativeType.canonicalAll, ofTypes, ofTypes, same type List.mem_cons_self,
        ih fun other hother => same other (List.mem_cons_of_mem _ hother)]

/-- A signature makes the same delegate as its canonical form if its types are mapped alike. -/
theorem Signature.delegateWith_canonical {signature : Signature}
    {mapType : NativeType → Position → MapScope → Except MappingError ManagedType}
    {name : String} {names : List String}
    (same : ∀ type ∈ signature.types, ∀ position scope, position ≠ .unionField →
      mapType type.canonical position scope = mapType type position scope) :
    signature.canonical.delegateWith (fun type _ => mapType type) name names =
      signature.delegateWith (fun type _ => mapType type) name names := by
  obtain ⟨result, params, variadic, convention⟩ := signature
  have hresult := same result List.mem_cons_self .result (.ofMember name "return") nofun
  have hparams : Parameter.ofTypes name names 0 (NativeType.canonicalAll params)
        (fun type _ => mapType type .parameter) =
      Parameter.ofTypes name names 0 params (fun type _ => mapType type .parameter) :=
    Parameter.ofTypes_canonical fun type htype scope =>
      same type (List.mem_cons_of_mem _ htype) .parameter scope nofun
  simp only [canonical, delegateWith, mapWith, callable, hresult, hparams]
  rfl

namespace Mapper

variable {mapper : Mapper} {type type' : NativeType} {position : Position} {scope : MapScope}

/-- Neither the layout of a type nor its own `const` matters for its managed form. -/
theorem map_of_kind_eq (h : type.kind = type'.kind) :
    mapper.map type position scope = mapper.map type' position scope := by
  obtain ⟨kind, layout, isConst⟩ := type
  obtain ⟨kind', layout', isConst'⟩ := type'
  cases h
  cases kind with
  | pointer pointee =>
      cases hfound : pointee.function? with
      | some signature => rw [map_pointer_of_function hfound, map_pointer_of_function hfound]
      | none => rw [map_pointer_of_object hfound, map_pointer_of_object hfound]
  | array element length =>
      rw [map, map]
      rfl
  | record name isUnion => cases name <;> rw [map, map]
  | _ => rw [map, map]

/-- In a union, what leads to a function is an address unless it is a function type itself. -/
theorem map_unionField_of_signature? (hsignature : type.signature?.isSome)
    (hobject : type.function? = none) :
    mapper.map type.canonical .unionField scope = .ok (.handle .untyped) := by
  obtain ⟨signature, hsignature⟩ := Option.isSome_iff_exists.mp hsignature
  obtain ⟨pointee, hkind, hfunction⟩ :=
    NativeType.exists_pointer_of_signature? hsignature hobject
  have hpointer : mapper.map type.canonical .unionField scope =
      mapper.map ⟨.pointer pointee, none, false⟩ .unionField scope := map_of_kind_eq hkind
  rw [hpointer, map_pointer_of_function hfunction]
  rfl

/-- A function type that is written out has no managed form. -/
theorem map_canonical_of_function? (h : type.function?.isSome) :
    mapper.map type.canonical position scope =
      .error (.unsupportedType "function type used by value") := by
  fun_induction NativeType.function? type with
  | case1 name underlying layout isConst ih =>
      rw [← ih h]
      exact map_of_kind_eq rfl
  | case2 signature layout isConst => rw [NativeType.canonical, map]
  | case3 => cases h

theorem aliasOf?_eq_none (noAliases : ∀ name, name ∉ mapper.index.aliases)
    (pointee : NativeType) : mapper.aliasOf? pointee = none := by
  rw [Option.eq_none_iff_forall_ne_some]
  intro name hname
  exact noAliases name (aliasOf?_eq_some_iff.mp hname).1

/-- A typedef is mapped like its canonical form if what it names is. -/
theorem map_canonical_typedef {name : String} {underlying : NativeType} {layout : Option Layout}
    {isConst : Bool} (unbound : name ∉ mapper.index.aliases)
    (apart : position = .unionField → underlying.function? = none)
    (same : (position = .unionField → underlying.signature? = none) →
      mapper.map underlying.canonical position scope = mapper.map underlying position scope) :
    mapper.map (NativeType.canonical ⟨.typedef name underlying, layout, isConst⟩) position scope =
      mapper.map ⟨.typedef name underlying, layout, isConst⟩ position scope := by
  rw [map]
  split
  next hunion =>
    obtain ⟨rfl, hsignature⟩ := hunion
    exact map_unionField_of_signature? hsignature (apart rfl)
  next hunion =>
    rw [if_neg (by simpa using unbound), ← same (by simpa using hunion)]
    exact map_of_kind_eq rfl

/-- A pointer is mapped like its canonical form if the pointee, or the types of the signature that
it is a function of, are. -/
theorem map_canonical_pointer {pointee : NativeType} {layout : Option Layout} {isConst : Bool}
    (noAliases : ∀ name, name ∉ mapper.index.aliases)
    (function : ∀ signature, pointee.function? = some signature → ∀ type ∈ signature.types,
      ∀ position scope, position ≠ .unionField →
        mapper.map type.canonical position scope = mapper.map type position scope)
    (object : mapper.map pointee.canonical .pointee scope = mapper.map pointee .pointee scope) :
    mapper.map (NativeType.canonical ⟨.pointer pointee, layout, isConst⟩) position scope =
      mapper.map ⟨.pointer pointee, layout, isConst⟩ position scope := by
  have hcanonical := NativeType.function?_canonical pointee
  rw [NativeType.canonical]
  cases hfound : pointee.function? with
  | some signature =>
      rw [hfound] at hcanonical
      rw [map_pointer_of_function hfound, map_pointer_of_function hcanonical,
        aliasOf?_eq_none noAliases, aliasOf?_eq_none noAliases]
      simp only [Signature.delegateWith_canonical (function signature hfound)]
  | none =>
      rw [hfound] at hcanonical
      rw [map_pointer_of_object hfound, map_pointer_of_object hcanonical,
        NativeType.isConstChar_canonical, object]

/-- An inline array is mapped like its canonical form if its elements are, the direct ones as
pointees and the innermost ones as elements. -/
theorem map_canonical_array {element : NativeType} {length : UInt64} {layout : Option Layout}
    {isConst : Bool}
    (decayed : mapper.map element.canonical .pointee scope = mapper.map element .pointee scope)
    (inline : let item := (NativeType.nested ⟨.array element length, layout, isConst⟩).element
      mapper.map item.canonical .arrayElement scope = mapper.map item .arrayElement scope) :
    mapper.map (NativeType.canonical ⟨.array element length, layout, isConst⟩) position scope =
      mapper.map ⟨.array element length, layout, isConst⟩ position scope := by
  have hnested := NativeType.nested_canonical ⟨.array element length, layout, isConst⟩
  rw [NativeType.canonical] at hnested ⊢
  rw [map, map, decayed, hnested]
  simp only [NativeType.isChar_canonical, inline]
  rfl

/-- Outside the exception, types are mapped like their canonical forms. -/
theorem map_canonical_of_not_namesFunction (noAliases : ∀ name, name ∉ mapper.index.aliases)
    (apart : position = .unionField → ¬ type.NamesFunction) :
    mapper.map type.canonical position scope = mapper.map type position scope := by
  induction hsize : sizeOf type using Nat.strongRecOn generalizing type position scope with
  | ind size ih =>
    subst hsize
    obtain ⟨kind, layout, isConst⟩ := type
    have hsmaller : ∀ part ∈ kind.parts, sizeOf part < sizeOf (NativeType.mk kind layout isConst) :=
      fun part => NativeType.sizeOf_lt_of_mem_parts
    -- only a typedef passes the position of a union member on
    have ih' : ∀ part ∈ kind.parts, ∀ position scope, position ≠ .unionField →
        mapper.map part.canonical position scope = mapper.map part position scope :=
      fun part hpart position scope hposition =>
        ih _ (hsmaller part hpart) (fun hunion => absurd hunion hposition) rfl
    have hpointee : ∀ part ∈ kind.parts,
        mapper.map part.canonical .pointee scope = mapper.map part .pointee scope :=
      fun part hpart => ih' part hpart .pointee scope (by decide)
    cases kind with
    | void | bool | char | integer | float | record | enumeration | unexposed => rfl
    | function signature => rw [NativeType.canonical, map, map]
    | typedef name underlying =>
        refine map_canonical_typedef (noAliases name) (fun hunion => ?_) fun hnone => ?_
        · rw [← Option.not_isSome_iff_eq_none]
          exact fun hfunction => apart hunion ⟨⟨name, underlying, rfl⟩, hfunction⟩
        · have hunderlying := hsmaller underlying underlying.mem_parts
          refine ih _ hunderlying (fun hunion hnames => ?_) rfl
          simpa [hnone hunion] using hnames.isSome_signature?
    | pointer pointee =>
        refine map_canonical_pointer noAliases (fun signature hfound part hpart => ?_)
          (hpointee pointee pointee.mem_parts)
        refine ih' part (NativeType.parts_of_function? hfound ?_)
        exact Signature.parts_subset hpart part.mem_parts
    | array element length =>
        refine map_canonical_array (hpointee element element.mem_parts) (ih' _ ?_ _ _ (by decide))
        exact NativeType.parts_nested_element element (NativeType.mem_parts _)
    | openArray element =>
        rw [NativeType.canonical, map, map, hpointee element element.mem_parts]

/-- A run that binds no typedef maps every type like its canonical form, errors included, except
for one way to write the address of a function in a union. -/
theorem map_canonical (noAliases : ∀ name, name ∉ mapper.index.aliases) :
    (¬ (position = .unionField ∧ type.NamesFunction) →
      mapper.map type.canonical position scope = mapper.map type position scope) ∧
    (position = .unionField ∧ type.NamesFunction →
      mapper.map type position scope = .ok (.handle .untyped) ∧
      mapper.map type.canonical position scope =
        .error (.unsupportedType "function type used by value")) := by
  refine ⟨fun hapart => ?_, ?_⟩
  · exact map_canonical_of_not_namesFunction noAliases fun hposition hnames =>
      hapart ⟨hposition, hnames⟩
  · rintro ⟨rfl, hnames⟩
    refine ⟨?_, map_canonical_of_function? hnames.2⟩
    have hsignature := hnames.isSome_signature?
    obtain ⟨kind, layout, isConst⟩ := type
    obtain ⟨⟨name, underlying, rfl⟩, -⟩ := hnames
    rw [map, if_pos ⟨rfl, hsignature⟩]

/-- A typedef for functions that take text, which is `const` by way of a typedef. -/
def textHandler : NativeType :=
  let letter : NativeType := .ofAlias "letter" (NativeType.char true).constant
  .ofAlias "handler" (.function .void [.pointer letter])

/-- A pointer to such a function is a delegate that takes a string; the typedef itself is the
exception in a union. -/
theorem map_canonical_textHandler :
    let mapper : Mapper := ⟨∅, true⟩
    let scope : MapScope := .ofMember "event" "handler"
    (∀ name, name ∉ mapper.index.aliases) ∧
    mapper.map (NativeType.pointer textHandler).canonical .field scope =
      mapper.map (.pointer textHandler) .field scope ∧
    mapper.map (.pointer textHandler) .field scope =
      .ok (.delegate ⟨"event_handler", .void, [⟨"arg0", .string⟩], .c⟩) ∧
    textHandler.NamesFunction ∧
    mapper.map textHandler .unionField scope = .ok (.handle .untyped) ∧
    mapper.map textHandler.canonical .unionField scope =
      .error (.unsupportedType "function type used by value") := by
  intro mapper scope
  have noAliases : ∀ name, name ∉ mapper.index.aliases := NameSet.not_mem_empty
  have hnames : textHandler.NamesFunction := ⟨⟨_, _, rfl⟩, rfl⟩
  refine ⟨noAliases, (map_canonical noAliases).1 nofun, ?_, hnames,
    (map_canonical noAliases).2 ⟨rfl, hnames⟩⟩
  let params : List Parameter := [⟨"arg0", .string⟩]
  have hname : params[0].name = Identifier.escape (Parameter.nativeName [] 0) := by decide
  refine Maps.map_eq (.delegate rfl rfl rfl rfl (.void (.inl rfl)) rfl (fun i hi => ?_)
    fun i hi _ => ?_)
  · cases Nat.lt_one_iff.mp hi
    exact hname
  · cases Nat.lt_one_iff.mp hi
    exact .string rfl rfl

end Mapper

end Interop
