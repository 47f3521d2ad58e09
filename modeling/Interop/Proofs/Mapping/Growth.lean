import Interop.Lowering.Record
import Interop.Proofs.Mapping.Embedding
import Interop.Proofs.Mapping.References

/-!
# Mapping with a larger index

Mapping is not monotone in an arbitrary index: a typedef that enters the index replaces what it
stood for, and a wrapper that holds a managed reference may not lie in a union where its target
may. The larger index has to know more. A typedef whose target holds no managed reference where
it stands has to be listed as holding none (`Mapper.Grows.fresh`), and then whatever the smaller
index maps the larger one maps too, and what holds no managed reference still holds none
(`Mapper.Maps.grows`).
-/

namespace Interop

/-- All that one index lists is listed by another one. -/
structure SymbolIndex.Within (small large : SymbolIndex) : Prop where
  records : ∀ name ∈ small.records, name ∈ large.records
  enums : ∀ name ∈ small.enums, name ∈ large.enums
  aliases : ∀ name ∈ small.aliases, name ∈ large.aliases
  blittable : ∀ name ∈ small.blittable, name ∈ large.blittable

theorem SymbolIndex.Within.lists {small large : SymbolIndex} (h : small.Within large)
    {name : String} (hname : small.Lists name) : large.Lists name :=
  hname.imp (h.records name) (Or.imp (h.enums name) (h.aliases name))

/-- The positions whose types are stored in a structure. -/
def Position.isStored : Position → Bool
  | .field | .unionField | .aliasTarget => true
  | .parameter | .result | .pointee | .arrayElement => false

namespace Parameter

/-- Mapping the parameters of a signature succeeds when it does so for each of them. -/
theorem exists_ofTypes_eq_ok {owner : String} {names : List String} {index : Nat}
    {types : List NativeType}
    {mapType : (type : NativeType) → type ∈ types → MapScope → Except MappingError ManagedType}
    (h : ∀ i (hi : i < types.length), ∃ mapped, mapType types[i] (List.getElem_mem hi)
      (.ofMember owner (nativeName names (index + i))) = .ok mapped) :
    ∃ params, ofTypes owner names index types mapType = .ok params := by
  induction types generalizing index with
  | nil => exact ⟨[], rfl⟩
  | cons type types ih =>
      obtain ⟨mapped, hmapped⟩ := h 0 (by simp)
      have hrest : ∀ i (hi : i < types.length), ∃ mapped,
          mapType types[i] (List.mem_cons_of_mem _ (List.getElem_mem hi))
            (.ofMember owner (nativeName names (index + 1 + i))) = .ok mapped := by
        intro i hi
        have := h (i + 1) (by simpa using hi)
        simpa [Nat.add_assoc, Nat.add_comm 1 i] using this
      obtain ⟨params, hparams⟩ := @ih (index + 1)
        (fun type h => mapType type (List.mem_cons_of_mem _ h)) hrest
      refine ⟨⟨Identifier.escape (nativeName names index), mapped⟩ :: params, ?_⟩
      rw [ofTypes, Outcome.bind_eq_ok_iff]
      refine ⟨mapped, Outcome.mapError_eq_ok_iff.mpr hmapped, ?_⟩
      exact Outcome.bind_eq_ok_iff.mpr ⟨params, hparams, rfl⟩

end Parameter

namespace Mapper

variable {mapper small large : Mapper} {type : NativeType} {position : Position}
  {scope : MapScope} {mapped : ManagedType}

theorem Maps.unique {other : ManagedType} (h : mapper.Maps type position scope mapped)
    (hother : mapper.Maps type position scope other) : mapped = other :=
  Except.ok.inj (h.map_eq.symm.trans hother.map_eq)

/-! ## Types without managed references -/

/-- Whether a type of a field holds no managed reference, given records known to hold none. -/
def isPlainType (mapper : Mapper) (plain : NameSet) : ManagedType → Bool
  | .named name => plain.contains name || mapper.isBlittable (.named name)
  | type => mapper.isBlittable type

/-- A type holds no managed reference, as far as the index can tell: nothing is known of names
that it does not list. -/
def SeemsPlain (mapper : Mapper) (type : ManagedType) : Prop :=
  mapper.isBlittable type = true ∨ ∃ name, type = .named name ∧ ¬ mapper.index.Lists name

theorem SeemsPlain.isBlittable {name : String} (h : mapper.SeemsPlain (.named name))
    (listed : mapper.index.Lists name) : mapper.isBlittable (.named name) = true := by
  rcases h with hblittable | ⟨_, heq, hunlisted⟩
  · exact hblittable
  · cases heq
    exact absurd listed hunlisted

theorem seemsPlain_of_isPlainType {plain : NameSet}
    (unlisted : ∀ name ∈ plain, ¬ mapper.index.Lists name) {type : ManagedType}
    (h : mapper.isPlainType plain type = true) : mapper.SeemsPlain type := by
  cases type with
  | named name =>
      rcases (Bool.or_eq_true _ _).mp h with hplain | hblittable
      · exact .inr ⟨name, rfl, unlisted name (NameSet.contains_iff.mp hplain)⟩
      · exact .inl hblittable
  | _ => exact .inl h

theorem isBlittable_named {name : String} :
    mapper.isBlittable (.named name) = true ↔
      name ∈ mapper.index.enums ∨ name ∈ mapper.index.blittable := by
  simp [Mapper.isBlittable]

theorem isPlainType_mono (within : small.index.Within large.index) {plain plain' : NameSet}
    (more : ∀ name ∈ plain, name ∈ plain') {type : ManagedType}
    (h : small.isPlainType plain type = true) : large.isPlainType plain' type = true := by
  cases type with
  | named name =>
      rcases (Bool.or_eq_true _ _).mp h with hplain | hblittable
      · have := more name (NameSet.contains_iff.mp hplain)
        simp [isPlainType, this]
      · have hlarge : large.isBlittable (.named name) = true :=
          isBlittable_named.mpr ((isBlittable_named.mp hblittable).imp (within.enums name)
            (within.blittable name))
        simp [isPlainType, hlarge]
  | array | text | string | delegate => cases h
  | _ => rfl

theorem isBlittable_of_scalar? {kind : TypeKind} (h : kind.scalar? = some mapped) :
    mapper.isBlittable mapped = true := by
  rcases TypeKind.eq_bool_or_primitive_of_scalar? h with rfl | ⟨_, rfl⟩ <;> rfl

theorem signature?_of_scalar? {kind : TypeKind} {layout : Option Layout} {isConst : Bool}
    (h : kind.scalar? = some mapped) : (NativeType.mk kind layout isConst).signature? = none := by
  cases kind <;> simp [TypeKind.scalar?] at h <;> rfl

/-! ## What an index says of typedefs -/

/-- An index that is right about the typedefs it lists: none is an enumeration, and one that is
listed as holding no managed reference does not stand for a function. -/
structure RightOn (index : SymbolIndex) (types : List NativeType) : Prop where
  notEnum : ∀ name ∈ index.aliases, name ∉ index.enums
  object : ∀ type ∈ types, ∀ name underlying, type.kind = .typedef name underlying →
    name ∈ index.aliases → name ∈ index.blittable → underlying.signature? = none

theorem RightOn.of_isBlittable {index : SymbolIndex} {types : List NativeType}
    (h : RightOn index types) (hindex : mapper.index = index) {name : String}
    {underlying : NativeType} (htype : type ∈ types) (hkind : type.kind = .typedef name underlying)
    (hbound : name ∈ index.aliases) (hblittable : mapper.isBlittable (.named name) = true) :
    underlying.signature? = none := by
  subst hindex
  rcases isBlittable_named.mp hblittable with henum | hplain
  · exact absurd henum (h.notEnum name hbound)
  · exact h.object type htype name underlying hkind hbound hplain

/-- A function is mapped to a delegate in a field or for a typedef, which is a managed
reference. -/
theorem Maps.signature?_eq_none (h : mapper.Maps type position scope mapped)
    (stored : position = .field ∨ position = .aliasTarget)
    (right : RightOn mapper.index type.parts) (plain : mapper.SeemsPlain mapped) :
    type.signature? = none := by
  induction h with
  | overlapped => simp at stored
  | @aliased name underlying _ _ _ _ bound =>
      have hobject : underlying.signature? = none :=
        right.of_isBlittable rfl (NativeType.mem_parts _) rfl bound
          (plain.isBlittable (.inr (.inr bound)))
      exact hobject
  | underlying _ _ _ ih =>
      refine ih stored ⟨right.notEnum, ?_⟩ plain
      exact fun part hpart => right.object part (NativeType.parts_underlying hpart)
  | scalar fixed => exact signature?_of_scalar? fixed
  | @callback pointee _ _ _ _ signature _ found _ bound =>
      obtain ⟨hbound, underlying, hkind⟩ := aliasOf?_eq_some_iff.mp bound
      have hnone := right.of_isBlittable rfl (NativeType.parts_pointee (NativeType.mem_parts _))
        hkind hbound (plain.isBlittable (.inr (.inr hbound)))
      obtain ⟨kind, layout, isConst⟩ := pointee
      cases hkind
      have hfunction : underlying.function? = some signature := found
      rw [NativeType.signature?_of_function? hfunction] at hnone
      cases hnone
  | delegate | text | array =>
      rcases plain with hblittable | ⟨_, heq, -⟩
      · cases hblittable
      · cases heq
  | functionAddress _ bare => rcases stored with rfl | rfl <;> cases bare
  | string object | address object => exact object
  | void | decayed | openArray | record | nameless | enumeration | integer => rfl

/-- A target that holds no managed reference where its typedef stands holds none as the value of
a wrapper either. -/
theorem Maps.isBlittable_aliasTarget (h : mapper.Maps type position scope mapped)
    (stored : position.isStored = true)
    (plain : position = .unionField ∨ mapper.SeemsPlain mapped)
    (object : type.signature? = none)
    (numbers : ∀ part ∈ type.parts, ∀ integer ∈ part.enumInteger?, integer.signature? = none)
    {outer : MapScope} (named : outer.anonymousRecord = none) {value : ManagedType}
    (hvalue : mapper.Maps type .aliasTarget outer value) : mapper.isBlittable value = true := by
  induction h with
  | overlapped function => simp_all [NativeType.signature?]
  | @aliased name underlying layout isConst position _ bound overlap =>
      have hnamed : mapper.Maps ⟨.typedef name underlying, layout, isConst⟩ .aliasTarget outer
          (.named name) := .aliased bound nofun
      rw [← hnamed.unique hvalue]
      rcases plain with hunion | hplain
      · exact isBlittable_named.mpr (.inr (overlap hunion).2)
      · exact hplain.isBlittable (.inr (.inr bound))
  | underlying unbound _ _ ih =>
      have hinner := fun part hpart => numbers part (NativeType.parts_underlying hpart)
      cases hvalue with
      | aliased bound => exact absurd bound unbound
      | underlying _ _ target => exact ih stored plain object hinner target
      | scalar fixed => simp [TypeKind.scalar?] at fixed
  | void valueless => rcases valueless with rfl | rfl <;> cases stored
  | scalar fixed =>
      rw [← Maps.unique (.scalar fixed) hvalue]
      exact isBlittable_of_scalar? fixed
  | callback found | delegate found | functionAddress found =>
      rw [NativeType.signature?, found] at object
      cases object
  | string hobject text | address hobject opaqueText =>
      rw [← Maps.unique (.address hobject (by simp [Position.passesStrings])) hvalue]
      rfl
  | decayed => cases stored
  | text inline =>
      rcases plain with hunion | hblittable | ⟨_, heq, -⟩
      · exact absurd hunion inline.1
      · cases hblittable
      · cases heq
  | array inline =>
      rcases plain with hunion | hblittable | ⟨_, heq, -⟩
      · exact absurd hunion inline.1
      · cases hblittable
      · cases heq
  | openArray =>
      rw [← Maps.unique (.openArray rfl) hvalue]
      rfl
  | @record name isUnion layout isConst position _ bound overlap =>
      have hnamed : mapper.Maps ⟨.record (some name) isUnion, layout, isConst⟩ .aliasTarget outer
          (.named name) := .record bound nofun
      rw [← hnamed.unique hvalue]
      rcases plain with hunion | hplain
      · exact isBlittable_named.mpr (.inr (overlap hunion))
      · exact hplain.isBlittable (.inl bound)
  | nameless =>
      cases hvalue with
      | nameless given => simp [named] at given
      | scalar fixed => simp [TypeKind.scalar?] at fixed
  | enumeration bound =>
      rw [← Maps.unique (.enumeration bound) hvalue]
      exact isBlittable_named.mpr (.inl bound)
  | @integer name integer _ _ _ _ _ unbound _ ih =>
      have hobject : integer.signature? = none :=
        numbers _ (NativeType.mem_parts _) integer rfl
      have hinner := fun part hpart => numbers part (NativeType.parts_integer hpart)
      cases hvalue with
      | enumeration bound => simp_all [Option.filter]
      | integer _ target => exact ih stored plain hobject hinner target
      | scalar fixed => simp [TypeKind.scalar?] at fixed

/-! ## Growing -/

/-- A larger index that knows enough of the typedefs among some types. -/
structure Grows (small large : Mapper) (types : List NativeType) : Prop where
  marshalStrings_eq : large.marshalStrings = small.marshalStrings
  within : small.index.Within large.index
  right : RightOn small.index types
  /-- A typedef whose target holds no managed reference where it stands is listed as holding
  none. -/
  fresh : ∀ type ∈ types, ∀ name underlying, type.kind = .typedef name underlying →
    name ∈ large.index.aliases → ∀ position scope mapped,
      small.Maps underlying position scope mapped → position.isStored = true →
      position = .unionField ∨ small.SeemsPlain mapped → underlying.signature? = none →
      name ∈ large.index.blittable

/-- What holds no managed reference still holds none, given records of which the smaller index
knows nothing. -/
def KeepsPlain (small large : Mapper) (type type' : ManagedType) : Prop :=
  ∀ plain plain' : NameSet, (∀ name ∈ plain, ¬ small.index.Lists name) →
    (∀ name ∈ plain, name ∈ plain') → small.isPlainType plain type = true →
    large.isPlainType plain' type' = true

theorem KeepsPlain.refl (within : small.index.Within large.index) (type : ManagedType) :
    KeepsPlain small large type type :=
  fun _ _ _ more h => isPlainType_mono within more h

variable {types : List NativeType}

theorem aliasOf?_grows (grows : Grows small large types) {pointee : NativeType} {name : String}
    (h : small.aliasOf? pointee = some name) : large.aliasOf? pointee = some name := by
  obtain ⟨hbound, underlying, hkind⟩ := aliasOf?_eq_some_iff.mp h
  exact aliasOf?_eq_some_iff.mpr ⟨grows.within.aliases name hbound, underlying, hkind⟩

/-- A signature can be mapped when each of its types can. -/
theorem exists_mapSignature {signature : Signature} {owner : String} {names : List String}
    (returned : ∃ result, large.Maps signature.result .result (.ofMember owner "return") result)
    (passed : ∀ i (_ : i < signature.params.length), ∃ param,
      large.Maps signature.params[i] .parameter
        (.ofMember owner (Parameter.nativeName names i)) param) :
    ∃ answer, large.mapSignature owner signature names = .ok answer := by
  obtain ⟨result, hresult⟩ := returned
  have hparams : ∃ params, Parameter.ofTypes owner names 0 signature.params
      (fun type _ => large.map type .parameter) = .ok params := by
    refine Parameter.exists_ofTypes_eq_ok fun i hi => ?_
    obtain ⟨param, hparam⟩ := passed i hi
    exact ⟨param, by simpa using hparam.map_eq⟩
  obtain ⟨params, hparams⟩ := hparams
  refine ⟨(result, params), Outcome.bind_eq_ok_iff.mpr ⟨result, hresult.map_eq, ?_⟩⟩
  exact Outcome.bind_eq_ok_iff.mpr ⟨params, hparams, rfl⟩

theorem exists_delegate {signature : Signature} {owner : String} {names : List String}
    {convention : CallingConvention} (callable : signature.callable = .ok convention)
    (mapped : ∃ answer, large.mapSignature owner signature names = .ok answer) :
    ∃ delegate, large.delegate owner signature names = .ok delegate := by
  obtain ⟨⟨result, params⟩, hmapped⟩ := mapped
  refine ⟨⟨owner, result, params, convention⟩, ?_⟩
  refine Outcome.bind_eq_ok_iff.mpr ⟨convention, callable, ?_⟩
  exact Outcome.bind_eq_ok_iff.mpr ⟨(result, params), hmapped, rfl⟩

/-- What the smaller index maps the larger one maps, and keeps free of managed references. -/
theorem Maps.grows (grows : Grows small large types)
    (h : small.Maps type position scope mapped) (hparts : type.parts ⊆ types) :
    ∃ mapped', large.Maps type position scope mapped' ∧
      (position.isStored = true → KeepsPlain small large mapped mapped') := by
  have hkeeps := KeepsPlain.refl grows.within
  induction h with
  | overlapped function => exact ⟨_, .overlapped function, fun _ => hkeeps _⟩
  | @aliased name underlying _ _ _ _ bound overlap =>
      refine ⟨_, .aliased (grows.within.aliases name bound) fun hunion => ?_, fun _ => hkeeps _⟩
      exact ⟨(overlap hunion).1, grows.within.blittable name (overlap hunion).2⟩
  | @underlying name underlying layout isConst position scope mapped unbound overlap target ih =>
      have hunder : underlying.parts ⊆ types :=
        List.Subset.trans NativeType.parts_underlying hparts
      by_cases hfresh : name ∈ large.index.aliases
      · have hblittable := grows.fresh _ (hparts (NativeType.mem_parts _)) name underlying rfl
          hfresh position scope mapped target
        refine ⟨.named name, .aliased hfresh fun hunion => ?_, fun hstored => ?_⟩
        · exact ⟨overlap hunion, hblittable (by simp [hunion, Position.isStored])
            (.inl hunion) (overlap hunion)⟩
        · intro plain plain' unlisted more hplain
          have hseems := seemsPlain_of_isPlainType unlisted hplain
          have hobject : underlying.signature? = none := by
            by_cases hunion : position = .unionField
            · exact overlap hunion
            · have hwhere : position = .field ∨ position = .aliasTarget := by
                cases position <;> simp_all [Position.isStored]
              refine target.signature?_eq_none hwhere ⟨grows.right.notEnum, ?_⟩ hseems
              exact fun part hpart => grows.right.object part (hunder hpart)
          have hknown : large.isBlittable (.named name) = true :=
            isBlittable_named.mpr (.inr (hblittable hstored (.inr hseems) hobject))
          simp [isPlainType, hknown]
      · obtain ⟨mapped', hmaps, hplain⟩ := ih hunder
        exact ⟨mapped', .underlying hfresh overlap hmaps, hplain⟩
  | void valueless => exact ⟨_, .void valueless, fun _ => hkeeps _⟩
  | scalar fixed => exact ⟨_, .scalar fixed, fun _ => hkeeps _⟩
  | callback found holds bound =>
      exact ⟨_, .callback found holds (aliasOf?_grows grows bound), fun _ => hkeeps _⟩
  | @delegate pointee layout isConst position scope signature result params convention found
      holds unbound callable _ count _ _ ihresult ihparams =>
      have hsignature : signature.parts ⊆ types :=
        List.Subset.trans (NativeType.parts_of_function? found)
          (List.Subset.trans NativeType.parts_pointee hparts)
      have hlost : ∀ type', KeepsPlain small large
          (.delegate ⟨scope.delegateName, result, params, convention⟩) type' :=
        fun _ _ _ _ _ hplain => by cases hplain
      cases halias : large.aliasOf? pointee with
      | some name => exact ⟨_, .callback found holds halias, fun _ => hlost _⟩
      | none =>
          have hreturned : ∃ result, large.Maps signature.result .result
              (.ofMember scope.delegateName "return") result := by
            obtain ⟨result, hresult, -⟩ := ihresult
              (List.Subset.trans (Signature.parts_subset List.mem_cons_self) hsignature)
            exact ⟨result, hresult⟩
          have hpassed : ∀ i (_ : i < signature.params.length), ∃ param,
              large.Maps signature.params[i] .parameter
                (.ofMember scope.delegateName (Parameter.nativeName [] i)) param := by
            intro i hi
            have hmem : signature.params[i] ∈ signature.types :=
              List.mem_cons_of_mem _ (List.getElem_mem hi)
            obtain ⟨param, hparam, -⟩ := ihparams i (count ▸ hi) hi
              (List.Subset.trans (Signature.parts_subset hmem) hsignature)
            exact ⟨param, hparam⟩
          obtain ⟨delegate, hdelegate⟩ := exists_delegate callable
            (exists_mapSignature hreturned hpassed)
          refine ⟨.delegate delegate, maps_of_map ?_, fun _ => hlost _⟩
          rw [map_pointer_of_function found, if_pos holds, halias]
          exact Outcome.map_eq_ok_iff.mpr ⟨delegate, hdelegate, rfl⟩
  | functionAddress found bare => exact ⟨_, .functionAddress found bare, fun _ => hkeeps _⟩
  | string object text =>
      rw [← grows.marshalStrings_eq] at text
      exact ⟨_, .string object text, fun _ => hkeeps _⟩
  | address object opaqueText =>
      rw [← grows.marshalStrings_eq] at opaqueText
      exact ⟨_, .address object opaqueText, fun _ _ _ _ _ _ => rfl⟩
  | decayed => exact ⟨_, .decayed, fun _ _ _ _ _ _ => rfl⟩
  | text inline sized chars =>
      rw [← grows.marshalStrings_eq] at chars
      exact ⟨_, .text inline sized chars, fun _ => hkeeps _⟩
  | @array element length layout isConst _ _ _ inline sized chars item ih =>
      rw [← grows.marshalStrings_eq] at chars
      obtain ⟨mapped', hmaps, -⟩ :=
        ih (List.Subset.trans (NativeType.parts_nested_element _) hparts)
      exact ⟨_, .array inline sized chars hmaps, fun _ _ _ _ _ hplain => by cases hplain⟩
  | openArray outside => exact ⟨_, .openArray outside, fun _ _ _ _ _ _ => rfl⟩
  | @record name _ _ _ _ _ bound overlap =>
      refine ⟨_, .record (grows.within.records name bound) fun hunion => ?_, fun _ => hkeeps _⟩
      exact grows.within.blittable name (overlap hunion)
  | nameless given => exact ⟨_, .nameless given, fun _ => hkeeps _⟩
  | @enumeration name _ _ _ _ _ bound =>
      exact ⟨_, .enumeration (grows.within.enums name bound), fun _ => hkeeps _⟩
  | @integer name integer layout isConst position scope mapped unbound target ih =>
      cases hbound : name.filter large.index.enums.contains with
      | some bound =>
          obtain ⟨rfl, henum⟩ := Option.filter_eq_some_iff.mp hbound
          rw [NameSet.contains_iff] at henum
          refine ⟨_, .enumeration henum, fun _ _ _ _ _ _ => ?_⟩
          have hknown : large.isBlittable (.named bound) = true :=
            isBlittable_named.mpr (.inl henum)
          simp [isPlainType, hknown]
      | none =>
          obtain ⟨mapped', hmaps, hplain⟩ :=
            ih (List.Subset.trans NativeType.parts_integer hparts)
          exact ⟨mapped', .integer hbound hmaps, hplain⟩

theorem mapSignature_grows (grows : Grows small large types) {signature : Signature}
    {owner : String} {names : List String} {answer : ManagedType × List Parameter}
    (h : small.mapSignature owner signature names = .ok answer)
    (hparts : signature.parts ⊆ types) :
    ∃ answer', large.mapSignature owner signature names = .ok answer' := by
  obtain ⟨hresult, hcount, hparams⟩ := mapSignature_eq_ok_iff.mp h
  refine exists_mapSignature ?_ fun i hi => ?_
  · obtain ⟨result', hmaps, -⟩ := (maps_of_map hresult).grows grows
      (List.Subset.trans (Signature.parts_subset List.mem_cons_self) hparts)
    exact ⟨result', hmaps⟩
  · have hmem : signature.params[i] ∈ signature.types :=
      List.mem_cons_of_mem _ (List.getElem_mem hi)
    have hparam := (hparams i (hcount ▸ hi) hi).2
    obtain ⟨param', hmaps, -⟩ := (maps_of_map hparam).grows grows
      (List.Subset.trans (Signature.parts_subset hmem) hparts)
    exact ⟨param', hmaps⟩

theorem delegate_grows (grows : Grows small large types) {signature : Signature}
    {owner : String} {names : List String} {delegate : Delegate}
    (h : small.delegate owner signature names = .ok delegate) (hparts : signature.parts ⊆ types) :
    ∃ delegate', large.delegate owner signature names = .ok delegate' := by
  obtain ⟨convention, hcallable, hrest⟩ := Outcome.bind_eq_ok_iff.mp h
  obtain ⟨answer, hmapped, -⟩ := Outcome.bind_eq_ok_iff.mp hrest
  exact exists_delegate hcallable (mapSignature_grows grows hmapped hparts)

theorem isBlittable_of_keepsPlain {type type' : ManagedType}
    (h : KeepsPlain small large type type') (hblittable : small.isBlittable type = true) :
    large.isBlittable type' = true := by
  have hplain : ∀ (mapper : Mapper) (type : ManagedType),
      mapper.isPlainType ∅ type = mapper.isBlittable type := by
    intro mapper type
    cases type <;> rfl
  rw [← hplain] at hblittable ⊢
  exact h ∅ ∅ (fun name hname => absurd hname (NameSet.not_mem_empty name))
    (fun _ hname => hname) hblittable

end Mapper

end Interop
