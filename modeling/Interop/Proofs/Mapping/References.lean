import Interop.Proofs.Managed.Exposure
import Interop.Proofs.Mapping.Rules

/-!
# The names that mapped types refer to

A managed type refers to other declarations by name. Wherever such a name is exposed it comes
from one of two places: from the index, which lists the declarations that a run is to bind, or
from the scope, which knows the name of the nameless record of a field. Scopes invented on the
way down, for the signatures of delegates, know no such name.
-/

namespace Interop

/-- A declaration that a run is to bind as a record, an enumeration, a wrapper or a delegate. -/
def SymbolIndex.Lists (index : SymbolIndex) (name : String) : Prop :=
  name ∈ index.records ∨ name ∈ index.enums ∨ name ∈ index.aliases

instance (index : SymbolIndex) (name : String) : Decidable (index.Lists name) :=
  inferInstanceAs (Decidable (_ ∨ _ ∨ _))

namespace Mapper

variable {mapper : Mapper} {type : NativeType} {position : Position} {scope : MapScope}
  {mapped : ManagedType} {name : String}

/-- A name exposed by a mapped type is in the index, or is that of the scope's nameless record. -/
theorem Maps.lists_of_exposes (h : mapper.Maps type position scope mapped)
    (hname : mapped.Exposes (.named name)) :
    mapper.index.Lists name ∨ scope.anonymousRecord = some name := by
  induction h with
  | overlapped | void | functionAddress | string | address | decayed | text | openArray =>
      cases hname
  | aliased bound =>
      cases hname
      exact .inl (.inr (.inr bound))
  | underlying _ _ _ ih => exact ih hname
  | scalar fixed =>
      rcases TypeKind.eq_bool_or_primitive_of_scalar? fixed with rfl | ⟨_, rfl⟩ <;> cases hname
  | callback _ _ bound =>
      cases hname
      exact .inl (.inr (.inr (aliasOf?_eq_some_iff.mp bound).1))
  | @delegate pointee layout isConst position scope signature result params convention _ _ _ _ _
      count _ _ ihresult ihparams =>
      cases hname with
      | result inner => exact .inl ((ihresult inner).resolve_right (by simp [MapScope.ofMember]))
      | param mem inner =>
          obtain ⟨i, hi, rfl⟩ := List.getElem_of_mem mem
          exact .inl ((ihparams i hi (count ▸ hi) inner).resolve_right
            (by simp [MapScope.ofMember]))
  | array _ _ _ _ ih =>
      cases hname with
      | element inner => exact ih inner
  | record bound =>
      cases hname
      exact .inl (.inl bound)
  | nameless given =>
      cases hname
      exact .inr given
  | enumeration bound =>
      cases hname
      exact .inl (.inr (.inl bound))
  | integer _ _ ih => exact ih hname

/-- The types of a signature are mapped in scopes that belong to its owner. -/
theorem exists_maps_of_mapSignature {owner : String} {signature : Signature} {names : List String}
    {result : ManagedType} {params : List Parameter}
    (h : mapper.mapSignature owner signature names = .ok (result, params))
    (hmapped : mapped ∈ result :: params.map (·.type)) :
    ∃ type position member, mapper.Maps type position (.ofMember owner member) mapped := by
  obtain ⟨hresult, hcount, hparams⟩ := mapSignature_eq_ok_iff.mp h
  rcases List.mem_cons.mp hmapped with rfl | hlater
  · exact ⟨_, _, _, maps_of_map hresult⟩
  · obtain ⟨param, hparam, rfl⟩ := List.mem_map.mp hlater
    obtain ⟨i, hi, rfl⟩ := List.getElem_of_mem hparam
    exact ⟨_, _, _, maps_of_map (hparams i hi (hcount ▸ hi)).2⟩

/-- The types of a signature refer to nothing but the index. -/
theorem lists_of_mapSignature {owner : String} {signature : Signature} {names : List String}
    {result : ManagedType} {params : List Parameter}
    (h : mapper.mapSignature owner signature names = .ok (result, params))
    (hname : ∃ type ∈ result :: params.map (·.type), type.Exposes (.named name)) :
    mapper.index.Lists name := by
  obtain ⟨mapped, hmapped, hexposes⟩ := hname
  obtain ⟨_, _, _, hmaps⟩ := exists_maps_of_mapSignature h hmapped
  exact (hmaps.lists_of_exposes hexposes).resolve_right (by simp [MapScope.ofMember])

/-- A delegate has the result and the parameters of its mapped signature. -/
theorem mapSignature_of_delegate {owner : String} {signature : Signature} {names : List String}
    {delegate : Delegate} (h : mapper.delegate owner signature names = .ok delegate) :
    mapper.mapSignature owner signature names = .ok (delegate.result, delegate.params) := by
  obtain ⟨convention, -, hrest⟩ := Outcome.bind_eq_ok_iff.mp h
  obtain ⟨⟨result, params⟩, hmapped, heq⟩ := Outcome.bind_eq_ok_iff.mp hrest
  cases heq
  exact hmapped

/-- A delegate refers to nothing but the index. -/
theorem lists_of_delegate {owner : String} {signature : Signature} {names : List String}
    {delegate : Delegate} (h : mapper.delegate owner signature names = .ok delegate)
    (hname : ∃ type ∈ delegate.result :: delegate.params.map (·.type),
      type.Exposes (.named name)) :
    mapper.index.Lists name :=
  lists_of_mapSignature (mapSignature_of_delegate h) hname

end Mapper

end Interop
