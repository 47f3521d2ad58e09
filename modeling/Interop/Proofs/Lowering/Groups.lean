import Interop.Binding.Run
import Interop.Proofs.Lowering.Records

/-!
# What a declaration becomes

`Mapper.lower` in one table: `Mapper.Lowers` holds between a kind of binding, a declaration and
the group of its symbols, and has a rule for records, delegates, wrappers, enumerations and
functions each. What all groups have in common is read off the rules here: their symbols are of
the kind asked for, the main one is called after the declaration, and what they refer to is in
the index or in the group itself.
-/

namespace Interop

/-- The names that an index has for one kind of binding. Functions are never referred to. -/
def SymbolIndex.names (index : SymbolIndex) : SymbolKind → NameSet
  | .struct => index.records
  | .enumeration => index.enums
  | .typedef => index.aliases
  | .function => ∅

theorem SymbolIndex.lists_iff {index : SymbolIndex} {name : String} :
    index.Lists name ↔ ∃ kind, name ∈ index.names kind := by
  constructor
  · rintro (hrecord | henum | halias)
    · exact ⟨.struct, hrecord⟩
    · exact ⟨.enumeration, henum⟩
    · exact ⟨.typedef, halias⟩
  · rintro ⟨kind, hname⟩
    cases kind with
    | struct => exact .inl hname
    | enumeration => exact .inr (.inl hname)
    | typedef => exact .inr (.inr hname)
    | function => simp [SymbolIndex.names] at hname

namespace Mapper

/-- The symbols for a declaration that is bound as one of a kind. -/
inductive Lowers (mapper : Mapper) (naming : NamingPolicy) :
    SymbolKind → Declaration → SymbolGroup → Prop
  | record {record : Declaration} {name : String} {group : SymbolGroup}
      (named : record.typeName? = some name)
      (lowered : mapper.lowerRecordAs record name = .ok group) :
      Lowers mapper naming .struct record group
  /-- A typedef of a function or function pointer. -/
  | delegate {declaration : Declaration} {target : NativeType} {signature : Signature}
      {delegate : Delegate} (targeted : declaration.typedefTarget? = some target)
      (untagged : target.isTagged declaration.spelling = false)
      (function : target.signature? = some signature)
      (mapped : mapper.delegate declaration.spelling signature
        (declaration.parameterNames signature) = .ok delegate) :
      Lowers mapper naming .typedef declaration (.single ⟨.typedef, declaration.spelling,
        Identifier.escape declaration.spelling, .delegate delegate⟩)
  /-- A typedef of anything else. -/
  | wrapper {declaration : Declaration} {target : NativeType} {type : ManagedType}
      (targeted : declaration.typedefTarget? = some target)
      (untagged : target.isTagged declaration.spelling = false)
      (object : target.signature? = none)
      (mapped : mapper.Maps target .aliasTarget (.ofMember declaration.spelling "Value") type) :
      Lowers mapper naming .typedef declaration (.single ⟨.typedef, declaration.spelling,
        Identifier.escape declaration.spelling, .wrapper (wrapperField type) type⟩)
  | enumeration {declaration : Declaration} {name : String} {primitive : Primitive}
      (named : declaration.typeName? = some name)
      (underlying : declaration.enumPrimitive = .ok primitive) :
      Lowers mapper naming .enumeration declaration (.single ⟨.enumeration, name,
        Identifier.escape name, .enumeration primitive
          (EnumMember.ofConstants none (declaration.childrenOfKind .enumerator))⟩)
  | function {declaration : Declaration} {signature : Signature}
      {convention : CallingConvention} {result : ManagedType} {params : List Parameter}
      (wanted : naming.isExcluded declaration.spelling = false)
      (visible : declaration.linkage ≠ .internal)
      (typed : declaration.type.signature? = some signature)
      (callable : signature.callable = .ok convention)
      (mapped : mapper.mapSignature declaration.spelling signature
        (declaration.parameterNames signature) = .ok (result, params)) :
      Lowers mapper naming .function declaration (.single ⟨.function, declaration.spelling,
        naming.functionName declaration.spelling, .function result params convention⟩)

variable {mapper : Mapper} {naming : NamingPolicy} {kind : SymbolKind}
  {declaration : Declaration} {group : SymbolGroup}

theorem lowerTypedef_eq_ok_iff {symbol : BindingSymbol} :
    mapper.lowerTypedef declaration = .ok (some symbol) ↔
      ∃ target, declaration.typedefTarget? = some target ∧
        target.isTagged declaration.spelling = false ∧
        ∃ body, mapper.typedefBody declaration declaration.spelling target = .ok body ∧
          symbol = ⟨.typedef, declaration.spelling, Identifier.escape declaration.spelling,
            body⟩ := by
  rw [lowerTypedef]
  cases declaration.typedefTarget? with
  | none => simp
  | some target =>
      by_cases htagged : target.isTagged declaration.spelling = true
      · simp [htagged]
      · simp [htagged, Outcome.map_eq_ok_iff, eq_comm (a := symbol)]

theorem lowerFunction_eq_ok_iff {symbol : BindingSymbol} :
    mapper.lowerFunction naming declaration = .ok (some symbol) ↔
      naming.isExcluded declaration.spelling = false ∧ declaration.linkage ≠ .internal ∧
        mapper.functionSymbol naming declaration = .ok symbol := by
  rw [lowerFunction]
  by_cases hexcluded : naming.isExcluded declaration.spelling = true
  · simp [hexcluded]
  · by_cases hinternal : declaration.linkage = .internal
    · simp [hinternal]
    · simp [hexcluded, hinternal, Outcome.map_eq_ok_iff]

/-- Lowering follows the table. -/
theorem lower_eq_ok_iff :
    mapper.lower naming kind declaration = .ok (some group) ↔
      mapper.Lowers naming kind declaration group := by
  constructor
  · intro h
    cases kind with
    | struct =>
        obtain ⟨_, hlowered, heq⟩ := Outcome.map_eq_ok_iff.mp h
        cases heq
        rw [lowerRecord] at hlowered
        split at hlowered
        next name hname => exact .record hname hlowered
        next => cases hlowered
    | typedef =>
        obtain ⟨_, hlowered, hsymbol⟩ := Outcome.map_eq_ok_iff.mp h
        obtain ⟨symbol, rfl, rfl⟩ := Option.map_eq_some_iff.mp hsymbol
        obtain ⟨target, htarget, htagged, body, hbody, rfl⟩ := lowerTypedef_eq_ok_iff.mp hlowered
        rw [typedefBody] at hbody
        split at hbody
        next signature hsignature =>
          obtain ⟨delegate, hdelegate, rfl⟩ := Outcome.map_eq_ok_iff.mp hbody
          exact .delegate htarget htagged hsignature hdelegate
        next hobject =>
          obtain ⟨type, htype, rfl⟩ := Outcome.map_eq_ok_iff.mp hbody
          exact .wrapper htarget htagged hobject (maps_of_map htype)
    | enumeration =>
        obtain ⟨symbol, hlowered, heq⟩ := Outcome.map_eq_ok_iff.mp h
        cases heq
        rw [Declaration.lowerEnum] at hlowered
        split at hlowered
        next => cases hlowered
        next name hname =>
          obtain ⟨primitive, hprimitive, rfl⟩ := Outcome.map_eq_ok_iff.mp hlowered
          exact .enumeration hname hprimitive
    | function =>
        obtain ⟨_, hlowered, hsymbol⟩ := Outcome.map_eq_ok_iff.mp h
        obtain ⟨symbol, rfl, rfl⟩ := Option.map_eq_some_iff.mp hsymbol
        obtain ⟨hwanted, hvisible, hfunction⟩ := lowerFunction_eq_ok_iff.mp hlowered
        simp only [functionSymbol] at hfunction
        split at hfunction
        next => cases hfunction
        next signature hsignature =>
          obtain ⟨convention, hcallable, hrest⟩ := Outcome.bind_eq_ok_iff.mp hfunction
          obtain ⟨⟨result, params⟩, hmapped, heq⟩ := Outcome.bind_eq_ok_iff.mp hrest
          cases heq
          exact .function hwanted hvisible hsignature hcallable hmapped
  · intro h
    cases h with
    | record named lowered =>
        exact Outcome.map_eq_ok_iff.mpr ⟨group, by rw [lowerRecord, named]; exact lowered, rfl⟩
    | @delegate _ target signature delegate targeted untagged function mapped =>
        refine Outcome.map_eq_ok_iff.mpr ⟨_, lowerTypedef_eq_ok_iff.mpr
          ⟨target, targeted, untagged, .delegate delegate, ?_, rfl⟩, rfl⟩
        rw [typedefBody, function]
        exact Outcome.map_eq_ok_iff.mpr ⟨_, mapped, rfl⟩
    | @wrapper _ target type targeted untagged object mapped =>
        refine Outcome.map_eq_ok_iff.mpr ⟨_, lowerTypedef_eq_ok_iff.mpr
          ⟨target, targeted, untagged, .wrapper (wrapperField type) type, ?_, rfl⟩, rfl⟩
        rw [typedefBody, object]
        exact Outcome.map_eq_ok_iff.mpr ⟨_, mapped.map_eq, rfl⟩
    | enumeration named underlying =>
        refine Outcome.map_eq_ok_iff.mpr ⟨_, ?_, rfl⟩
        rw [Declaration.lowerEnum, named]
        exact Outcome.map_eq_ok_iff.mpr ⟨_, underlying, rfl⟩
    | @function _ signature convention result params wanted visible typed callable mapped =>
        refine Outcome.map_eq_ok_iff.mpr ⟨_, lowerFunction_eq_ok_iff.mpr
          ⟨wanted, visible, ?_⟩, rfl⟩
        simp only [functionSymbol, typed]
        exact Outcome.bind_eq_ok_iff.mpr ⟨convention, callable,
          Outcome.bind_eq_ok_iff.mpr ⟨(result, params), mapped, rfl⟩⟩

/-! ## What all groups have in common -/

namespace Lowers

/-- All symbols of a group are of the kind asked for. -/
theorem kind_eq (h : mapper.Lowers naming kind declaration group) {symbol : BindingSymbol}
    (hsymbol : symbol ∈ group.symbols) : symbol.kind = kind := by
  cases h with
  | record _ lowered => exact (record_of_mem_symbols lowered hsymbol).1
  | delegate | wrapper | enumeration | function =>
      rw [List.mem_singleton.mp hsymbol]
      rfl

theorem kind_main (h : mapper.Lowers naming kind declaration group) : group.main.kind = kind :=
  h.kind_eq SymbolGroup.main_mem_symbols

/-- The main symbol is called after the declaration. -/
theorem nativeName_eq (h : mapper.Lowers naming kind declaration group) :
    declaration.nativeName? kind = some group.main.nativeName := by
  cases h with
  | record named lowered =>
      rw [(main_of_lowerRecordAs lowered).2.1, named]
      exact named
  | enumeration named => exact named
  | delegate | wrapper | function => rfl

/-- Whatever is not a function is emitted under its native name. -/
theorem emittedName_eq (h : mapper.Lowers naming kind declaration group)
    (hkind : kind ≠ .function) :
    group.main.emittedName = Identifier.escape group.main.nativeName := by
  cases h with
  | record named lowered =>
      obtain ⟨-, hnative, hemitted, -⟩ := main_of_lowerRecordAs lowered
      rw [hnative, hemitted, named]
      rfl
  | delegate | wrapper | enumeration => rfl
  | function => exact absurd rfl hkind

/-- What the symbols of a group refer to is in the index or lifted out beside them. -/
theorem lists_or_hoists (h : mapper.Lowers naming kind declaration group)
    {symbol : BindingSymbol} (hsymbol : symbol ∈ group.symbols) {used : String}
    (hused : symbol.Exposes (.named used)) :
    mapper.index.Lists used ∨
      ∃ hoisted ∈ group.hoisted, hoisted.emittedName = Identifier.escape used := by
  cases h with
  | record _ lowered => exact lists_or_hoists_of_lowerRecordAs lowered hsymbol hused
  | delegate _ _ _ mapped =>
      rw [List.mem_singleton.mp hsymbol] at hused
      exact .inl (lists_of_delegate mapped hused)
  | wrapper _ _ _ mapped =>
      rw [List.mem_singleton.mp hsymbol] at hused
      obtain ⟨type, htype, hexposes⟩ := hused
      rw [List.mem_singleton.mp htype] at hexposes
      exact .inl ((mapped.lists_of_exposes hexposes).resolve_right nofun)
  | enumeration =>
      rw [List.mem_singleton.mp hsymbol] at hused
      obtain ⟨type, htype, -⟩ := hused
      exact absurd htype List.not_mem_nil
  | function _ _ _ _ mapped =>
      rw [List.mem_singleton.mp hsymbol] at hused
      exact .inl (lists_of_mapSignature mapped hused)

end Lowers

end Mapper

end Interop
