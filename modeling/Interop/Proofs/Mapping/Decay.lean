import Interop.Proofs.Mapping.Rules
import Interop.Proofs.Native.Parts

/-!
# Arrays behind typedefs

In C a parameter of array type is an address, by whatever name the array type is known. The rules
of mapping look at the position of an array only once its typedefs are gone, and they stop at the
first typedef that the run binds: the type stands for that typedef then, wherever it is
(`Mapper.map_of_typedefs`). So an array parameter is an address unless the run binds one of the
typedefs on the way to the array, and is passed by value as a wrapper otherwise
(`Mapper.decays_iff`).
-/

namespace Interop

namespace NativeType

variable {type : NativeType}

/-- The typedefs that a type is named by, the outermost first. -/
def typedefNames : NativeType → List String
  | ⟨.typedef name underlying, _, _⟩ => name :: underlying.typedefNames
  | _ => []
termination_by structural type => type

/-- Whether a type is an array, with or without a length. -/
def isArray (type : NativeType) : Bool :=
  match type.kind with
  | .array _ _ | .openArray _ => true
  | _ => false

theorem signature?_of_isArray_resolve (h : type.resolve.isArray = true) :
    type.signature? = none := by
  fun_induction resolve type with
  | case1 name underlying layout isConst ih => exact ih h
  | case2 type htypedef =>
      obtain ⟨kind, layout, isConst⟩ := type
      cases kind with
      | typedef name underlying => exact absurd rfl (htypedef name underlying layout isConst)
      | function | pointer => cases h
      | _ => rfl

end NativeType

namespace Mapper

variable {mapper : Mapper} {type : NativeType} {position : Position} {scope : MapScope}

/-- The outermost typedef of a type that the run binds. -/
def boundTypedef? (mapper : Mapper) (type : NativeType) : Option String :=
  type.typedefNames.find? mapper.index.aliases.contains

theorem boundTypedef?_eq_none_iff :
    mapper.boundTypedef? type = none ↔ ∀ name ∈ type.typedefNames, name ∉ mapper.index.aliases := by
  simp [boundTypedef?, List.find?_eq_none]

theorem boundTypedef?_typedef {name : String} {underlying : NativeType} {layout : Option Layout}
    {isConst : Bool} :
    mapper.boundTypedef? ⟨.typedef name underlying, layout, isConst⟩ =
      if name ∈ mapper.index.aliases then some name else mapper.boundTypedef? underlying := by
  simp only [boundTypedef?, NativeType.typedefNames, List.find?_cons]
  by_cases hbound : name ∈ mapper.index.aliases
  · rw [NameSet.contains_iff.mpr hbound, if_pos hbound]
  · have hcontains : mapper.index.aliases.contains name = false := by
      rwa [← Bool.not_eq_true, NameSet.contains_iff]
    rw [hcontains, if_neg hbound]

/-- A type stands for the outermost typedef of it that the run binds, and for what all its
typedefs name if there is none. -/
theorem map_of_typedefs (object : position = .unionField → type.signature? = none) :
    mapper.map type position scope =
      (mapper.boundTypedef? type).elim (mapper.map type.resolve position scope)
        fun name => mapper.reference name "wrapper" position := by
  fun_induction NativeType.resolve type with
  | case1 name underlying layout isConst ih =>
      have hobject : ¬ (position = .unionField ∧ underlying.signature?.isSome) := by
        rintro ⟨hunion, hsome⟩
        have hnone : underlying.signature? = none := object hunion
        simp [hnone] at hsome
      rw [map, if_neg hobject, boundTypedef?_typedef]
      by_cases hbound : name ∈ mapper.index.aliases
      · simp [hbound]
      · simp [hbound, ih object]
  | case2 type htypedef =>
      obtain ⟨kind, layout, isConst⟩ := type
      cases kind with
      | typedef name underlying => exact absurd rfl (htypedef name underlying layout isConst)
      | _ => rfl

theorem reference_of_ne_unionField {name noun : String} (h : position ≠ .unionField) :
    mapper.reference name noun position = .ok (.named name) :=
  reference_eq_ok_iff.mpr ⟨fun hunion => absurd hunion h, rfl⟩

/-- An array that is written out decays in a parameter. -/
theorem exists_map_parameter_of_isArray (h : type.isArray = true) :
    ∃ pointee, mapper.map type .parameter scope = .ok (.handle pointee) := by
  obtain ⟨kind, layout, isConst⟩ := type
  cases kind with
  | array element length => exact ⟨_, Maps.decayed.map_eq⟩
  | openArray element => exact ⟨_, (Maps.openArray rfl).map_eq⟩
  | _ => cases h

/-- What an array parameter is passed as: by its outermost typedef that the run binds, else by its
address. -/
theorem map_parameter_of_isArray_resolve (array : type.resolve.isArray = true) :
    (∀ name, mapper.boundTypedef? type = some name →
      mapper.map type .parameter scope = .ok (.named name)) ∧
    (mapper.boundTypedef? type = none →
      ∃ pointee, mapper.map type .parameter scope = .ok (.handle pointee)) := by
  have hmap : mapper.map type .parameter scope =
      (mapper.boundTypedef? type).elim (mapper.map type.resolve .parameter scope)
        fun name => mapper.reference name "wrapper" .parameter := map_of_typedefs nofun
  constructor
  · intro name hname
    rw [hmap, hname]
    exact reference_of_ne_unionField nofun
  · intro hnone
    rw [hmap, hnone]
    exact exists_map_parameter_of_isArray array

/-- An array parameter is an address exactly if the run binds no typedef on the way to the array,
and otherwise is passed by value as the outermost one that it binds; so it is in every function. -/
theorem decays_iff (array : type.resolve.isArray = true) :
    ((∃ pointee, mapper.map type .parameter scope = .ok (.handle pointee)) ↔
      ∀ name ∈ type.typedefNames, name ∉ mapper.index.aliases) ∧
    (∀ name, mapper.boundTypedef? type = some name →
      mapper.map type .parameter scope = .ok (.named name)) ∧
    ∀ owner signature names result params,
      mapper.mapSignature owner signature names = .ok (result, params) →
      ∀ i (hi : i < params.length), signature.params[i]? = some type →
        ((∃ pointee, params[i].type = .handle pointee) ↔
          ∀ name ∈ type.typedefNames, name ∉ mapper.index.aliases) := by
  rw [← boundTypedef?_eq_none_iff]
  have hiff : ∀ scope, (∃ pointee, mapper.map type .parameter scope = .ok (.handle pointee)) ↔
      mapper.boundTypedef? type = none := by
    intro scope
    refine ⟨?_, (map_parameter_of_isArray_resolve array).2⟩
    rintro ⟨pointee, hpointee⟩
    cases hbound : mapper.boundTypedef? type with
    | none => rfl
    | some name =>
        have hnamed : mapper.map type .parameter scope = .ok (.named name) :=
          (map_parameter_of_isArray_resolve array).1 name hbound
        cases hnamed.symm.trans hpointee
  refine ⟨hiff scope, (map_parameter_of_isArray_resolve array).1, ?_⟩
  intro owner signature names result params hsignature i hi htype
  obtain ⟨hi', rfl⟩ := List.getElem?_eq_some_iff.mp htype
  have hmap := ((mapSignature_eq_ok_iff.mp hsignature).2.2 i hi hi').2
  rw [← hiff (.ofMember owner (Parameter.nativeName names i)), hmap]
  simp

/-- Three numbers under two names, of which a run may bind neither, one or both. -/
def point : NativeType := .ofAlias "point" (.ofAlias "vector" (.array .int 3))

/-- A run that binds one typedef and nothing else. -/
def ofAlias (name : String) : Mapper :=
  ⟨{ (∅ : SymbolIndex) with aliases := .ofList [name] }, true⟩

theorem decays_iff_point :
    point.resolve.isArray = true ∧
    (∃ pointee, (Mapper.mk ∅ true).map point .parameter (.ofMember "move" "to") =
      .ok (.handle pointee)) ∧
    (ofAlias "vector").map point .parameter (.ofMember "move" "to") = .ok (.named "vector") := by
  have harray : point.resolve.isArray = true := rfl
  refine ⟨harray, ?_, ?_⟩
  · apply (decays_iff harray).1.mpr
    intro name _
    exact NameSet.not_mem_empty name
  · exact (decays_iff harray).2.1 "vector" (by decide)

/-- A run that binds the name of an array passes the array by value. -/
theorem not_decays_point :
    ¬ ∀ (mapper : Mapper) (scope : MapScope) (type : NativeType), type.resolve.isArray = true →
      ∃ pointee, mapper.map type .parameter scope = .ok (.handle pointee) := by
  intro h
  obtain ⟨pointee, hpointee⟩ := h (ofAlias "vector") (.ofMember "move" "to") point rfl
  have hnamed : (ofAlias "vector").map point .parameter (.ofMember "move" "to") =
      .ok (.named "vector") :=
    (map_parameter_of_isArray_resolve rfl).1 "vector" (by decide)
  cases hnamed.symm.trans hpointee

end Mapper

end Interop
