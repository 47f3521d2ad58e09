import Interop.Proofs.Lowering.Groups

/-!
# The names that a declaration brings along

A declaration is emitted under its own name, escaped if it is reserved. Whatever else its group
declares has to be given a name: a record that is lifted out takes that of the record around it,
an underscore and the member, and a delegate that of its owner, an underscore and the parameter
or field. So every such name continues that of the declaration with an underscore
(`Mapper.Lowers.continues_of_mem_declaredNames`). No reserved word has an underscore, and these
names are written as they are.

The `@` of an escaped name is no part of the identifier. Dropping it loses nothing that escaping
does not bring back, as long as the header itself writes no `@`
(`Mapper.Lowers.escape_bare`).
-/

namespace Interop

/-! ## Identifiers in source -/

namespace Identifier

variable {name text start rest : String}

/-- Whether a text starts with the `@` of an escaped name. -/
def isMarked (text : String) : Bool := text.toList.head? = some '@'

/-- The identifier that a text stands for: an `@` in front is no part of it. -/
def bare (text : String) : String :=
  match text.toList with
  | '@' :: rest => String.ofList rest
  | _ => text

theorem bare_at (name : String) : bare ("@" ++ name) = name := by
  simp [bare]

theorem bare_of_not_isMarked (unmarked : isMarked text = false) : bare text = text := by
  unfold bare
  split
  next rest htext => simp [isMarked, htext] at unmarked
  next => rfl

theorem isMarked_of_isValid (valid : isValid name = true) : isMarked name = false := by
  cases hname : name.toList with
  | nil => simp [isMarked, hname]
  | cons first rest =>
      have hstart : isStart first = true := by
        rw [isValid, hname, isValidChars, Bool.and_eq_true] at valid
        exact valid.1
      have hfirst : first ≠ '@' := by
        rintro rfl
        exact absurd hstart (by decide)
      simp [isMarked, hname, hfirst]

/-- Escaping adds nothing but the `@`. -/
theorem bare_escape (unmarked : isMarked name = false) : bare (escape name) = name := by
  unfold escape
  split
  · exact bare_at name
  · exact bare_of_not_isMarked unmarked

/-- What names something in source is its identifier, escaped or left as it is. -/
theorem escape_bare_of_isWritten (written : isWritten text = true) :
    isMarked (bare text) = false ∧
      (escape (bare text) = text ∨ escape (bare text) = bare text) := by
  unfold isWritten at written
  split at written
  next rest htext =>
    have hbare : bare text = String.ofList rest := by simp [bare, htext]
    have hat : "@" ++ bare text = text := by
      rw [hbare, ← String.toList_inj, htext]
      simp
    refine ⟨isMarked_of_isValid (by simpa [isValid, hbare] using written), ?_⟩
    by_cases hkeyword : isKeyword (bare text) = true
    · exact .inl ((escape_of_isKeyword hkeyword).trans hat)
    · exact .inr (escape_of_not_isKeyword (by simpa using hkeyword))
  next =>
    rw [Bool.and_eq_true, Bool.not_eq_true'] at written
    have hunmarked := isMarked_of_isValid written.1
    rw [bare_of_not_isMarked hunmarked]
    exact ⟨hunmarked, .inl (escape_of_not_isKeyword written.2)⟩

/-- A name goes on after another one with an underscore. -/
def Continues (name start : String) : Prop := ∃ rest, name = start ++ "_" ++ rest

theorem Continues.trans {middle : String} (h : Continues name middle)
    (h' : Continues middle start) : Continues name start := by
  obtain ⟨rest, rfl⟩ := h
  obtain ⟨inner, rfl⟩ := h'
  exact ⟨inner ++ "_" ++ rest, by simp [String.append_assoc]⟩

theorem not_isKeyword_of_underscore (underscore : '_' ∈ name.toList) : isKeyword name = false := by
  have hkeywords : ∀ word ∈ keywords, '_' ∉ word.toList := by decide +kernel
  by_contra hkeyword
  have hname : name ∈ keywords := by simpa [isKeyword] using hkeyword
  exact hkeywords name hname underscore

/-- A name that goes on after another one needs no escape. -/
theorem Continues.escape_eq (h : Continues name start) : escape name = name := by
  obtain ⟨rest, rfl⟩ := h
  exact escape_of_not_isKeyword (not_isKeyword_of_underscore (by simp))

theorem Continues.isMarked_eq (h : Continues name start) : isMarked name = isMarked start := by
  obtain ⟨rest, rfl⟩ := h
  unfold isMarked
  cases hstart : start.toList with
  | nil => simp [hstart]
  | cons first tail => simp [hstart]

end Identifier

open Identifier

/-- What remains of a native name is an identifier. -/
theorem NamingPolicy.isValid_of_remainder? {policy : NamingPolicy} {native rest : String}
    (h : policy.remainder? native = some rest) : isValid rest = true := by
  simp only [remainder?, Option.bind_eq_bind, Option.bind_eq_some_iff,
    Option.ite_none_right_eq_some, Option.some.injEq] at h
  obtain ⟨_, -, chars, -, hvalid, rfl⟩ := h
  rwa [isValid, String.toList_ofList]

/-! ## Delegates of mapped types -/

namespace Mapper

variable {mapper : Mapper} {type : NativeType} {position : Position} {scope : MapScope}
  {mapped : ManagedType} {delegate : Delegate}

/-- The delegates of a mapped type are called after the owner of its scope. -/
theorem Maps.continues_of_mem_delegates (h : mapper.Maps type position scope mapped)
    (hdelegate : delegate ∈ mapped.delegates) : Continues delegate.name scope.owner := by
  induction h with
  | overlapped | aliased | void | callback | functionAddress | string | address | decayed | text
  | openArray | record | nameless | enumeration => simp [ManagedType.delegates] at hdelegate
  | underlying _ _ _ ih | integer _ _ ih => exact ih hdelegate
  | array _ _ _ _ ih => exact ih (by simpa [ManagedType.delegates] using hdelegate)
  | scalar fixed =>
      rcases TypeKind.eq_bool_or_primitive_of_scalar? fixed with rfl | ⟨_, rfl⟩ <;>
        simp [ManagedType.delegates] at hdelegate
  | @delegate pointee layout isConst position scope signature result params convention _ _ _ _ _
      count _ _ ihresult ihparams =>
      -- the delegates of the signature continue the name of this one
      have hown : Continues scope.delegateName scope.owner := ⟨scope.member, rfl⟩
      rw [ManagedType.delegates_delegate, List.mem_append, List.mem_append] at hdelegate
      rcases hdelegate with (hresult | hparam) | hself
      · exact (ihresult hresult).trans hown
      · obtain ⟨param, hmem, hin⟩ := List.mem_flatMap.mp hparam
        obtain ⟨i, hi, rfl⟩ := List.getElem_of_mem hmem
        exact (ihparams i hi (count ▸ hi) hin).trans hown
      · cases List.mem_singleton.mp hself
        exact hown

theorem continues_of_mapSignature {owner : String} {signature : Signature} {names : List String}
    {result : ManagedType} {params : List Parameter}
    (h : mapper.mapSignature owner signature names = .ok (result, params))
    (hdelegate : delegate ∈ result.delegates ++ params.flatMap (·.type.delegates)) :
    Continues delegate.name owner := by
  have hmapped : ∃ mapped ∈ result :: params.map (·.type), delegate ∈ mapped.delegates := by
    simpa using hdelegate
  obtain ⟨mapped, hmem, hin⟩ := hmapped
  obtain ⟨_, _, _, hmaps⟩ := exists_maps_of_mapSignature h hmem
  exact hmaps.continues_of_mem_delegates hin

end Mapper

/-! ## Records -/

/-- The delegates of a lowered member are called after its record. -/
theorem RecordMember.Lowers.continues_of_mem_delegates {mapper : Mapper} {context : RecordContext}
    {member : RecordMember} {lowered : LoweredMember}
    (h : RecordMember.Lowers mapper context member lowered) {delegate : Delegate}
    (hdelegate : delegate ∈ lowered.binding.type.delegates) :
    Continues delegate.name context.name := by
  cases h with
  | anonymous => simp [ManagedType.delegates] at hdelegate
  | field _ mapped | declared _ _ mapped | shared _ mapped =>
      exact (Mapper.maps_of_map mapped).continues_of_mem_delegates hdelegate

namespace Mapper

variable {mapper : Mapper} {naming : NamingPolicy} {kind : SymbolKind}
  {declaration record : Declaration} {group : SymbolGroup} {symbol : BindingSymbol}
  {name : String} {delegate : Delegate}

/-- The records lifted out of a record and the delegates of all of them are called after it. -/
theorem continues_of_lowerRecordAs (h : mapper.lowerRecordAs record name = .ok group)
    (hsymbol : symbol ∈ group.symbols) :
    (symbol = group.main ∨ Continues symbol.emittedName name) ∧
      ∀ delegate ∈ symbol.delegates, Continues delegate.name name := by
  induction record, name using Mapper.lowerRecordAs.induct generalizing group symbol with
  | case1 record name ih =>
      obtain ⟨members, hmembers, hclose⟩ := lowerRecordAs_eq_ok_iff.mp h
      obtain ⟨-, pack, -, rfl⟩ := RecordContext.close_eq_ok_iff.mp hclose
      rcases List.mem_append.mp hsymbol with hhoisted | hmain
      · obtain ⟨member, hmember, -, -, label, nested, inner, hnested, hhoists, -, hin⟩ :=
          RecordMember.Lowers.exists_group_of_mem_hoisted hmembers hhoisted
        have hlabel : Continues ((record.context name).hoistedName label) name := ⟨label, rfl⟩
        obtain ⟨hname, hdelegates⟩ := ih member hmember nested hnested _ hhoists.1 hin
        refine ⟨.inr ?_, fun delegate hdelegate => (hdelegates delegate hdelegate).trans hlabel⟩
        rcases hname with rfl | hcontinues
        · rw [(main_of_lowerRecordAs hhoists.1).2.2.1, hlabel.escape_eq]
          exact hlabel
        · exact hcontinues.trans hlabel
      · cases List.mem_singleton.mp hmain
        refine ⟨.inl rfl, fun delegate hdelegate => ?_⟩
        obtain ⟨binding, hbinding, hin⟩ := List.mem_flatMap.mp hdelegate
        obtain ⟨lowered, hlowered, rfl⟩ := List.mem_map.mp hbinding
        obtain ⟨member, -, hlowers⟩ := exists_left_of_mem hmembers hlowered
        exact hlowers.continues_of_mem_delegates hin

/-! ## Groups -/

namespace Lowers

/-- Only a record has other symbols beside its own. -/
theorem hoisted_eq_nil (h : mapper.Lowers naming kind declaration group)
    (hkind : kind ≠ .struct) : group.hoisted = [] := by
  cases h with
  | record => exact absurd rfl hkind
  | delegate | wrapper | enumeration | function => rfl

theorem continues_of_mem_symbols (h : mapper.Lowers naming kind declaration group)
    (hsymbol : symbol ∈ group.symbols) :
    (symbol = group.main ∨ Continues symbol.emittedName group.main.nativeName) ∧
      ∀ delegate ∈ symbol.delegates, Continues delegate.name group.main.nativeName := by
  cases h with
  | record named lowered =>
      rw [(main_of_lowerRecordAs lowered).2.1, named]
      exact continues_of_lowerRecordAs lowered hsymbol
  | delegate _ _ _ mapped =>
      cases List.mem_singleton.mp hsymbol
      exact ⟨.inl rfl, fun _ hin => continues_of_mapSignature (mapSignature_of_delegate mapped) hin⟩
  | wrapper _ _ _ mapped =>
      cases List.mem_singleton.mp hsymbol
      exact ⟨.inl rfl, fun _ hin => mapped.continues_of_mem_delegates hin⟩
  | enumeration =>
      cases List.mem_singleton.mp hsymbol
      exact ⟨.inl rfl, fun _ hin => absurd hin List.not_mem_nil⟩
  | function _ _ _ _ mapped =>
      cases List.mem_singleton.mp hsymbol
      exact ⟨.inl rfl, fun _ hin => continues_of_mapSignature mapped hin⟩

/-- Every name of a group is that of its declaration or continues it. -/
theorem continues_of_mem_declaredNames (h : mapper.Lowers naming kind declaration group)
    (hname : name ∈ group.declaredNames) :
    name = group.main.emittedName ∨ Continues name group.main.nativeName := by
  rcases List.mem_append.mp hname with hemitted | hinvented
  · obtain ⟨symbol, hsymbol, rfl⟩ := List.mem_map.mp hemitted
    exact (h.continues_of_mem_symbols hsymbol).1.imp_left fun hmain => by rw [hmain]
  · obtain ⟨delegate, hdelegate, rfl⟩ := List.mem_map.mp hinvented
    obtain ⟨symbol, hsymbol, hin⟩ := List.mem_flatMap.mp hdelegate
    exact .inr ((h.continues_of_mem_symbols hsymbol).2 delegate hin)

/-- A declaration is emitted under an escaped name, which is its own or a part of it. -/
theorem exists_emittedName_eq_escape (h : mapper.Lowers naming kind declaration group)
    (unmarked : isMarked group.main.nativeName = false) :
    ∃ own, isMarked own = false ∧ group.main.emittedName = escape own := by
  by_cases hkind : kind = .function
  · subst hkind
    cases h with
    | function =>
        refine ⟨_, ?_, rfl⟩
        cases hremainder : naming.remainder? declaration.spelling with
        | none => exact unmarked
        | some rest => exact isMarked_of_isValid (NamingPolicy.isValid_of_remainder? hremainder)
  · exact ⟨_, unmarked, h.emittedName_eq hkind⟩

/-- The identifier determines the name: it is written with an `@` exactly if it is reserved. -/
theorem escape_bare (h : mapper.Lowers naming kind declaration group)
    (unmarked : isMarked group.main.nativeName = false) (hname : name ∈ group.declaredNames) :
    escape (bare name) = name := by
  rcases h.continues_of_mem_declaredNames hname with rfl | hcontinues
  · obtain ⟨own, hown, hemitted⟩ := h.exists_emittedName_eq_escape unmarked
    rw [hemitted, bare_escape hown]
  · rw [bare_of_not_isMarked (hcontinues.isMarked_eq.trans unmarked), hcontinues.escape_eq]

end Lowers

end Mapper

end Interop
