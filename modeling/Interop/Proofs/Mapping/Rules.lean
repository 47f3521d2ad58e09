import Interop.Mapping.Types
import Interop.Proofs.Outcome

/-!
# The rules of mapping

`Mapper.map` as a system of rules: `Mapper.Maps` holds between a native type, the position and
the scope it stands in, and the managed type it is written as, and has one constructor for each
way in which a mapping can succeed. The two agree (`Mapper.map_eq_ok_iff`), so a fact about all
mapped types is an induction over the rules and no proof opens the recursion of `map` again.

Types of a fixed width map the same way everywhere and share the rule `scalar`. What stands
behind a handle is mapped too, but never makes a type fail, so the rules for addresses have no
premise about it.
-/

namespace Interop

/-- The managed form of a truth value, character or number. -/
def TypeKind.scalar? : TypeKind → Option ManagedType
  | .bool => some .bool
  | .char signed => some (.primitive (.character signed))
  | .integer bits signed => (Primitive.integer? bits signed).map .primitive
  | .float bits => (Primitive.floating? bits).map .primitive
  | _ => none

/-- A type of a fixed width is a truth value or a primitive one. -/
theorem TypeKind.eq_bool_or_primitive_of_scalar? {kind : TypeKind} {type : ManagedType}
    (h : kind.scalar? = some type) : type = .bool ∨ ∃ primitive, type = .primitive primitive := by
  cases kind <;> simp [scalar?] at h
  case bool => exact .inl h.symm
  case char => exact .inr ⟨_, h.symm⟩
  case integer | float =>
    obtain ⟨primitive, -, rfl⟩ := h
    exact .inr ⟨primitive, rfl⟩

/-! ## Parameters -/

namespace Parameter

/-- Mapping the parameters of a signature succeeds when it does so for each of them, and keeps
their order and number. -/
theorem ofTypes_eq_ok_iff {owner : String} {names : List String} {index : Nat}
    {types : List NativeType}
    {mapType : (type : NativeType) → type ∈ types → MapScope → Except MappingError ManagedType}
    {params : List Parameter} :
    ofTypes owner names index types mapType = .ok params ↔
      params.length = types.length ∧
      ∀ i (h : i < params.length) (h' : i < types.length),
        params[i].name = Identifier.escape (nativeName names (index + i)) ∧
        mapType types[i] (List.getElem_mem h')
          (.ofMember owner (nativeName names (index + i))) = .ok params[i].type := by
  induction types generalizing index params with
  | nil =>
      cases params <;> simp [ofTypes]
  | cons type types ih =>
      simp only [ofTypes, Outcome.bind_eq_ok_iff, Outcome.mapError_eq_ok_iff]
      constructor
      · rintro ⟨mapped, hmapped, rest, hrest, heq⟩
        cases heq
        obtain ⟨hlength, hall⟩ := ih.mp hrest
        refine ⟨by simp [hlength], ?_⟩
        intro i h h'
        cases i with
        | zero => exact ⟨rfl, hmapped⟩
        | succ i =>
            have := hall i (by simpa using h) (by simpa using h')
            simpa [Nat.add_comm, Nat.add_left_comm] using this
      · rintro ⟨hlength, hall⟩
        cases params with
        | nil => simp at hlength
        | cons param params =>
            obtain ⟨hname, hmapped⟩ := hall 0 (by simp) (by simp)
            refine ⟨param.type, hmapped, params, ih.mpr ⟨by simpa using hlength, ?_⟩, ?_⟩
            · intro i h h'
              have := hall (i + 1) (by simpa using h) (by simpa using h')
              simpa [Nat.add_comm, Nat.add_left_comm] using this
            · obtain ⟨name, type⟩ := param
              simp only [Nat.add_zero] at hname
              rw [← hname]
              rfl

end Parameter

/-- What it takes for a signature to become a delegate. -/
theorem Signature.delegateWith_eq_ok_iff {signature : Signature}
    {mapType : (type : NativeType) → type ∈ signature.types → Position → MapScope →
      Except MappingError ManagedType}
    {name : String} {names : List String} {delegate : Delegate} :
    signature.delegateWith mapType name names = .ok delegate ↔
      delegate.name = name ∧ signature.callable = .ok delegate.convention ∧
      mapType signature.result List.mem_cons_self .result (.ofMember name "return") =
        .ok delegate.result ∧
      delegate.params.length = signature.params.length ∧
      ∀ i (h : i < delegate.params.length) (h' : i < signature.params.length),
        delegate.params[i].name = Identifier.escape (Parameter.nativeName names i) ∧
        mapType signature.params[i] (List.mem_cons_of_mem _ (List.getElem_mem h')) .parameter
          (.ofMember name (Parameter.nativeName names i)) = .ok delegate.params[i].type := by
  obtain ⟨given, result, params, convention⟩ := delegate
  simp only [delegateWith, mapWith, Outcome.bind_eq_ok_iff, Parameter.ofTypes_eq_ok_iff]
  constructor
  · rintro ⟨_, hcallable, _, ⟨_, hresult, _, hparams, heq⟩, hanswer⟩
    cases heq
    cases hanswer
    exact ⟨rfl, hcallable, hresult, by simpa using hparams⟩
  · rintro ⟨rfl, hcallable, hresult, hparams⟩
    exact ⟨_, hcallable, _, ⟨_, hresult, _, by simpa using hparams, rfl⟩, rfl⟩

/-! ## Types -/

namespace Mapper

/-- How a native type is written, by its kind, its position and the index. -/
inductive Maps (mapper : Mapper) : NativeType → Position → MapScope → ManagedType → Prop
  /-- A typedef of a function pointer becomes a bare address where members overlap. -/
  | overlapped {name : String} {underlying : NativeType} {layout : Option Layout}
      {isConst : Bool} {scope : MapScope} (function : underlying.signature?.isSome) :
      Maps mapper ⟨.typedef name underlying, layout, isConst⟩ .unionField scope (.handle .untyped)
  /-- A typedef that the run binds stands for itself. -/
  | aliased {name : String} {underlying : NativeType} {layout : Option Layout} {isConst : Bool}
      {position : Position} {scope : MapScope} (bound : name ∈ mapper.index.aliases)
      (overlap : position = .unionField →
        underlying.signature? = none ∧ name ∈ mapper.index.blittable) :
      Maps mapper ⟨.typedef name underlying, layout, isConst⟩ position scope (.named name)
  /-- Any other typedef stands for what it names. -/
  | underlying {name : String} {underlying : NativeType} {layout : Option Layout}
      {isConst : Bool} {position : Position} {scope : MapScope} {type : ManagedType}
      (unbound : name ∉ mapper.index.aliases)
      (overlap : position = .unionField → underlying.signature? = none)
      (target : Maps mapper underlying position scope type) :
      Maps mapper ⟨.typedef name underlying, layout, isConst⟩ position scope type
  | void {layout : Option Layout} {isConst : Bool} {position : Position} {scope : MapScope}
      (valueless : position = .result ∨ position = .pointee) :
      Maps mapper ⟨.void, layout, isConst⟩ position scope .void
  | scalar {kind : TypeKind} {layout : Option Layout} {isConst : Bool} {position : Position}
      {scope : MapScope} {type : ManagedType} (fixed : kind.scalar? = some type) :
      Maps mapper ⟨kind, layout, isConst⟩ position scope type
  /-- A pointer to a typedef of a function type that the run binds as a delegate. -/
  | callback {pointee : NativeType} {layout : Option Layout} {isConst : Bool}
      {position : Position} {scope : MapScope} {signature : Signature} {name : String}
      (found : pointee.function? = some signature) (holds : position.holdsDelegates = true)
      (bound : mapper.aliasOf? pointee = some name) :
      Maps mapper ⟨.pointer pointee, layout, isConst⟩ position scope (.named name)
  /-- Any other function pointer, where a delegate may stand. -/
  | delegate {pointee : NativeType} {layout : Option Layout} {isConst : Bool}
      {position : Position} {scope : MapScope} {signature : Signature} {result : ManagedType}
      {params : List Parameter} {convention : CallingConvention}
      (found : pointee.function? = some signature) (holds : position.holdsDelegates = true)
      (unbound : mapper.aliasOf? pointee = none) (callable : signature.callable = .ok convention)
      (returned : Maps mapper signature.result .result (.ofMember scope.delegateName "return")
        result)
      (count : params.length = signature.params.length)
      (named : ∀ i (_ : i < params.length),
        params[i].name = Identifier.escape (Parameter.nativeName [] i))
      (passed : ∀ i (_ : i < params.length) (_ : i < signature.params.length),
        Maps mapper signature.params[i] .parameter
          (.ofMember scope.delegateName (Parameter.nativeName [] i)) params[i].type) :
      Maps mapper ⟨.pointer pointee, layout, isConst⟩ position scope
        (.delegate ⟨scope.delegateName, result, params, convention⟩)
  /-- A function pointer elsewhere. -/
  | functionAddress {pointee : NativeType} {layout : Option Layout} {isConst : Bool}
      {position : Position} {scope : MapScope} {signature : Signature}
      (found : pointee.function? = some signature) (bare : position.holdsDelegates = false) :
      Maps mapper ⟨.pointer pointee, layout, isConst⟩ position scope (.handle .untyped)
  /-- Read-only text. -/
  | string {pointee : NativeType} {layout : Option Layout} {isConst : Bool}
      {position : Position} {scope : MapScope} (object : pointee.function? = none)
      (text : (mapper.marshalStrings && position.passesStrings && pointee.isConstChar) = true) :
      Maps mapper ⟨.pointer pointee, layout, isConst⟩ position scope .string
  | address {pointee : NativeType} {layout : Option Layout} {isConst : Bool}
      {position : Position} {scope : MapScope} (object : pointee.function? = none)
      (opaqueText : (mapper.marshalStrings && position.passesStrings && pointee.isConstChar) =
        false) :
      Maps mapper ⟨.pointer pointee, layout, isConst⟩ position scope
        (.handle (.ofPointee (mapper.map pointee .pointee scope)))
  /-- An array parameter is an address. -/
  | decayed {element : NativeType} {length : UInt64} {layout : Option Layout} {isConst : Bool}
      {scope : MapScope} :
      Maps mapper ⟨.array element length, layout, isConst⟩ .parameter scope
        (.handle (.ofPointee (mapper.map element .pointee scope)))
  /-- An inline character array. -/
  | text {element : NativeType} {length : UInt64} {layout : Option Layout} {isConst : Bool}
      {position : Position} {scope : MapScope}
      (inline : position ≠ .unionField ∧ position ≠ .parameter ∧ position ≠ .result)
      (sized : (NativeType.nested ⟨.array element length, layout, isConst⟩).count ≠ 0)
      (chars : (mapper.marshalStrings && position.inlinesText &&
        (NativeType.nested ⟨.array element length, layout, isConst⟩).lengths.length = 1 &&
        (NativeType.nested ⟨.array element length, layout, isConst⟩).element.isChar) = true) :
      Maps mapper ⟨.array element length, layout, isConst⟩ position scope
        (.text (NativeType.nested ⟨.array element length, layout, isConst⟩).count)
  | array {element : NativeType} {length : UInt64} {layout : Option Layout} {isConst : Bool}
      {position : Position} {scope : MapScope} {type : ManagedType}
      (inline : position ≠ .unionField ∧ position ≠ .parameter ∧ position ≠ .result)
      (sized : (NativeType.nested ⟨.array element length, layout, isConst⟩).count ≠ 0)
      (chars : (mapper.marshalStrings && position.inlinesText &&
        (NativeType.nested ⟨.array element length, layout, isConst⟩).lengths.length = 1 &&
        (NativeType.nested ⟨.array element length, layout, isConst⟩).element.isChar) = false)
      (item : Maps mapper (NativeType.nested ⟨.array element length, layout, isConst⟩).element
        .arrayElement scope type) :
      Maps mapper ⟨.array element length, layout, isConst⟩ position scope
        (.array type (NativeType.nested ⟨.array element length, layout, isConst⟩).count)
  | openArray {element : NativeType} {layout : Option Layout} {isConst : Bool}
      {position : Position} {scope : MapScope} (outside : position.isField = false) :
      Maps mapper ⟨.openArray element, layout, isConst⟩ position scope
        (.handle (.ofPointee (mapper.map element .pointee scope)))
  | record {name : String} {isUnion : Bool} {layout : Option Layout} {isConst : Bool}
      {position : Position} {scope : MapScope} (bound : name ∈ mapper.index.records)
      (overlap : position = .unionField → name ∈ mapper.index.blittable) :
      Maps mapper ⟨.record (some name) isUnion, layout, isConst⟩ position scope (.named name)
  /-- A record without a name takes the one that its scope has for it. -/
  | nameless {isUnion : Bool} {layout : Option Layout} {isConst : Bool} {position : Position}
      {scope : MapScope} {name : String} (given : scope.anonymousRecord = some name) :
      Maps mapper ⟨.record none isUnion, layout, isConst⟩ position scope (.named name)
  | enumeration {name : String} {integer : NativeType} {layout : Option Layout} {isConst : Bool}
      {position : Position} {scope : MapScope} (bound : name ∈ mapper.index.enums) :
      Maps mapper ⟨.enumeration (some name) integer, layout, isConst⟩ position scope (.named name)
  /-- An enumeration that the run does not bind is its integer type. -/
  | integer {name : Option String} {integer : NativeType} {layout : Option Layout}
      {isConst : Bool} {position : Position} {scope : MapScope} {type : ManagedType}
      (unbound : name.filter mapper.index.enums.contains = none)
      (target : Maps mapper integer position scope type) :
      Maps mapper ⟨.enumeration name integer, layout, isConst⟩ position scope type

variable {mapper : Mapper} {type : NativeType} {position : Position} {scope : MapScope}
  {mapped : ManagedType}

theorem reference_eq_ok_iff {name noun : String} :
    mapper.reference name noun position = .ok mapped ↔
      (position = .unionField → name ∈ mapper.index.blittable) ∧ mapped = .named name := by
  rw [reference]
  split
  · simp_all
  · simp_all [eq_comm (a := mapped)]

/-- Every mapping follows one of the rules. -/
theorem maps_of_map (h : mapper.map type position scope = .ok mapped) :
    mapper.Maps type position scope mapped := by
  fun_induction Mapper.map mapper type position scope generalizing mapped with
  | case1 position scope name underlying layout isConst hfunction =>
      obtain ⟨rfl, hfunction⟩ := hfunction
      cases h
      exact .overlapped hfunction
  | case2 position scope name underlying layout isConst hfunction hbound =>
      obtain ⟨hoverlap, rfl⟩ := reference_eq_ok_iff.mp h
      refine .aliased (by simpa using hbound) fun hposition => ⟨?_, hoverlap hposition⟩
      simpa [hposition] using hfunction
  | case3 position scope name underlying layout isConst hfunction hbound ih =>
      refine .underlying (by simpa using hbound) (fun hposition => ?_) (ih h)
      simpa [hposition] using hfunction
  | case4 position scope layout isConst hvalueless =>
      cases h
      exact .void hvalueless
  | case6 =>
      cases h
      exact .scalar rfl
  | case7 =>
      cases h
      exact .scalar rfl
  | case8 _ _ _ _ _ _ _ hprimitive =>
      cases h
      exact .scalar (by simp [TypeKind.scalar?, hprimitive])
  | case10 _ _ _ _ _ _ hprimitive =>
      cases h
      exact .scalar (by simp [TypeKind.scalar?, hprimitive])
  | case12 position scope pointee layout isConst signature hfound hholds name hbound =>
      cases h
      exact .callback hfound hholds hbound
  | case13 position scope pointee layout isConst signature hfound hholds hunbound ih =>
      obtain ⟨⟨name, result, params, convention⟩, hdelegate, rfl⟩ := Outcome.map_eq_ok_iff.mp h
      obtain ⟨rfl, hcallable, hresult, hcount, hparams⟩ :=
        Signature.delegateWith_eq_ok_iff.mp hdelegate
      refine .delegate hfound hholds hunbound hcallable ?_ hcount ?_ ?_
      · exact ih _ List.mem_cons_self _ _ hresult
      · intro i hi
        exact (hparams i hi (hcount ▸ hi)).1
      · intro i hi hi'
        exact ih _ (List.mem_cons_of_mem _ (List.getElem_mem hi')) _ _ (hparams i hi hi').2
  | case14 position scope pointee layout isConst signature hfound hholds =>
      cases h
      exact .functionAddress hfound (by simpa using hholds)
  | case15 position scope pointee layout isConst hfound htext =>
      cases h
      exact .string hfound htext
  | case16 position scope pointee layout isConst hfound htext =>
      cases h
      exact .address hfound (by simpa using htext)
  | case18 =>
      cases h
      exact .decayed
  | case21 position scope element length layout isConst hunion hparameter hresult array hsized =>
      rename_i hchars
      cases h
      exact .text ⟨hunion, hparameter, hresult⟩ hsized hchars
  | case22 position scope element length layout isConst hunion hparameter hresult array hsized
      hchars =>
      rename_i ih
      obtain ⟨item, hitem, rfl⟩ := Outcome.map_eq_ok_iff.mp h
      exact .array ⟨hunion, hparameter, hresult⟩ hsized (by simpa using hchars) (ih hitem)
  | case24 position scope element layout isConst hfield =>
      cases h
      exact .openArray (by simpa using hfield)
  | case26 position scope name isUnion layout isConst hbound =>
      obtain ⟨hoverlap, rfl⟩ := reference_eq_ok_iff.mp h
      exact .record (by simpa using hbound) hoverlap
  | case28 position scope isUnion layout isConst name hgiven =>
      cases h
      exact .nameless hgiven
  | case30 position scope name integer layout isConst bound hbound =>
      cases h
      obtain ⟨rfl, henum⟩ := Option.filter_eq_some_iff.mp hbound
      exact .enumeration (by simpa using henum)
  | case31 position scope name integer layout isConst hunbound ih =>
      exact .integer hunbound (ih h)
  | case5 | case9 | case11 | case17 | case19 | case20 | case23 | case25 | case27 | case29
  | case32 => cases h

/-- A function pointer, by whether a delegate may stand there. -/
theorem map_pointer_of_function {pointee : NativeType} {layout : Option Layout} {isConst : Bool}
    {signature : Signature} (found : pointee.function? = some signature) :
    mapper.map ⟨.pointer pointee, layout, isConst⟩ position scope =
      if position.holdsDelegates then
        match mapper.aliasOf? pointee with
        | some name => .ok (.named name)
        | none =>
          (signature.delegateWith (fun type _ => mapper.map type) scope.delegateName []).map
            .delegate
      else .ok (.handle .untyped) := by
  rw [map]
  split
  next other =>
    cases Option.some.inj (other.symm.trans found)
    rfl
  next other => simp [found] at other

/-- A pointer to anything but a function. -/
theorem map_pointer_of_object {pointee : NativeType} {layout : Option Layout} {isConst : Bool}
    (object : pointee.function? = none) :
    mapper.map ⟨.pointer pointee, layout, isConst⟩ position scope =
      if mapper.marshalStrings && position.passesStrings && pointee.isConstChar then .ok .string
      else .ok (.handle (.ofPointee (mapper.map pointee .pointee scope))) := by
  rw [map]
  split
  next other => simp [object] at other
  next => rfl

/-- Every rule is followed by the mapping. -/
theorem Maps.map_eq (h : mapper.Maps type position scope mapped) :
    mapper.map type position scope = .ok mapped := by
  induction h with
  | overlapped function => simp [map, function]
  | aliased bound overlap =>
      rw [map, if_neg (by grind), if_pos (by simpa using bound), reference_eq_ok_iff]
      exact ⟨fun hposition => (overlap hposition).2, rfl⟩
  | underlying unbound overlap _ ih =>
      rw [map, if_neg (by grind), if_neg (by simpa using unbound), ih]
  | void valueless => rw [map, if_pos valueless]
  | @scalar kind _ _ _ _ _ fixed =>
      cases kind <;> simp [TypeKind.scalar?] at fixed
      case bool => rw [map, fixed]
      case char => rw [map, fixed]
      case integer =>
        obtain ⟨_, hprimitive, rfl⟩ := fixed
        simp [map, hprimitive]
      case float =>
        obtain ⟨_, hprimitive, rfl⟩ := fixed
        simp [map, hprimitive]
  | callback found holds bound => rw [map_pointer_of_function found, if_pos holds, bound]
  | @delegate pointee layout isConst position scope signature result params convention found holds
      unbound callable _ count named _ ihresult ihparams =>
      have hdelegate : signature.delegateWith (fun type _ => mapper.map type) scope.delegateName []
          = .ok ⟨scope.delegateName, result, params, convention⟩ :=
        Signature.delegateWith_eq_ok_iff.mpr ⟨rfl, callable, ihresult, count,
          fun i h h' => ⟨named i h, ihparams i h h'⟩⟩
      rw [map_pointer_of_function found, if_pos holds, unbound]
      exact Outcome.map_eq_ok_iff.mpr ⟨_, hdelegate, rfl⟩
  | functionAddress found bare => simp [map_pointer_of_function found, bare]
  | string object text => rw [map_pointer_of_object object, if_pos text]
  | address object opaqueText => simp [map_pointer_of_object object, opaqueText]
  | decayed => simp [map]
  | text inline sized chars =>
      rw [map, if_neg inline.1, if_neg inline.2.1, if_neg inline.2.2]
      simp only [if_neg sized, if_pos chars]
  | array inline sized chars _ ih =>
      rw [map, if_neg inline.1, if_neg inline.2.1, if_neg inline.2.2]
      simp only [if_neg sized, chars, ih]
      rfl
  | openArray outside => simp [map, outside]
  | record bound overlap =>
      rw [map, if_pos (by simpa using bound), reference_eq_ok_iff]
      exact ⟨overlap, rfl⟩
  | nameless given => simp [map, given]
  | enumeration bound =>
      rw [map, Option.filter_some, if_pos (by simpa using bound)]
  | integer unbound _ ih => rw [map, unbound, ih]

theorem map_eq_ok_iff :
    mapper.map type position scope = .ok mapped ↔ mapper.Maps type position scope mapped :=
  ⟨maps_of_map, Maps.map_eq⟩

/-- A signature is mapped when its result and its parameters are; each parameter keeps its place
and takes its name from the header or from its position. -/
theorem mapSignature_eq_ok_iff {owner : String} {signature : Signature} {names : List String}
    {result : ManagedType} {params : List Parameter} :
    mapper.mapSignature owner signature names = .ok (result, params) ↔
      mapper.map signature.result .result (.ofMember owner "return") = .ok result ∧
      params.length = signature.params.length ∧
      ∀ i (h : i < params.length) (h' : i < signature.params.length),
        params[i].name = Identifier.escape (Parameter.nativeName names i) ∧
        mapper.map signature.params[i] .parameter
          (.ofMember owner (Parameter.nativeName names i)) = .ok params[i].type := by
  simp only [mapSignature, Signature.mapWith, Outcome.bind_eq_ok_iff, Parameter.ofTypes_eq_ok_iff,
    Nat.zero_add]
  constructor
  · rintro ⟨_, hresult, _, hparams, heq⟩
    cases heq
    exact ⟨hresult, hparams⟩
  · rintro ⟨hresult, hparams⟩
    exact ⟨_, hresult, _, hparams, rfl⟩

/-- The alias that a pointee is. -/
theorem aliasOf?_eq_some_iff {pointee : NativeType} {name : String} :
    mapper.aliasOf? pointee = some name ↔
      name ∈ mapper.index.aliases ∧ ∃ underlying, pointee.kind = .typedef name underlying := by
  unfold aliasOf?
  split
  next given underlying hkind =>
    simp only [hkind, NameSet.contains_iff, Option.ite_none_right_eq_some, Option.some.injEq,
      TypeKind.typedef.injEq, exists_and_left, exists_eq', and_true]
    grind
  next hkind => simp_all

end Mapper

end Interop
