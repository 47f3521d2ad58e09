import Interop.Proofs.Native.Parts
import Interop.Proofs.Source.Names

/-!
# Identifiers in, identifiers out

When the names in a header are identifiers, so is every name that lowering makes of them. A name
is taken over from a declaration, or it is made of names and numbers with underscores between
them, and an identifier stays one when it is continued in that way. Reserved words are escaped
where a symbol keeps a name as it is written.

What is asked of a header is `Declaration.IsWellNamed` of all its nodes. The symbols of a group
then are all `BindingSymbol.IsWellNamed` (`Mapper.Lowers.isWellNamed`).
-/

namespace Interop

open Identifier

/-! ## Names of a header -/

/-- The name in a record or enumeration type itself. -/
def NativeType.ownName? (type : NativeType) : Option String :=
  match type.kind with
  | .record name _ | .enumeration name _ => name
  | _ => none

namespace DeclarationKind

/-- Whether the declarations of a kind always have a name. -/
def isNamed : DeclarationKind → Bool
  | .field | .enumerator | .typedef | .function => true
  | _ => false

/-- Whether the declarations of a kind may have a name. -/
def mayBeNamed : DeclarationKind → Bool
  | .parameter | .struct | .union | .enumeration => true
  | _ => false

end DeclarationKind

namespace Declaration

/-- The names of a node by itself are identifiers, reserved or not. -/
def IsWellNamed (declaration : Declaration) : Prop :=
  (declaration.kind.isNamed = true → isValid declaration.spelling = true) ∧
  (declaration.kind.mayBeNamed = true → declaration.spelling ≠ "" →
    isValid declaration.spelling = true) ∧
  ∀ name ∈ declaration.type.ownName?, isValid name = true

instance : DecidablePred IsWellNamed := fun declaration =>
  inferInstanceAs (Decidable ((declaration.kind.isNamed = true →
      isValid declaration.spelling = true) ∧
    (declaration.kind.mayBeNamed = true → declaration.spelling ≠ "" →
      isValid declaration.spelling = true) ∧
    ∀ name ∈ declaration.type.ownName?, isValid name = true))

/-- The names of a node and of all nodes below it are identifiers. -/
def AllWellNamed (declaration : Declaration) : Prop :=
  ∀ node ∈ declaration.nodes, node.IsWellNamed

variable {declaration child : Declaration} {name : String}

theorem AllWellNamed.self (h : declaration.AllWellNamed) : declaration.IsWellNamed :=
  h declaration declaration.mem_nodes

theorem AllWellNamed.of_mem_children (h : declaration.AllWellNamed)
    (hchild : child ∈ declaration.children) : child.AllWellNamed :=
  fun node hnode => h node (nodes_child hchild hnode)

theorem IsWellNamed.isValid_of_typeName? (h : declaration.IsWellNamed)
    (hkind : declaration.kind.mayBeNamed = true) (hname : declaration.typeName? = some name) :
    isValid name = true := by
  obtain ⟨-, hspelling, htype⟩ := h
  rw [typeName?] at hname
  split at hname
  · apply htype
    rw [NativeType.ownName?]
    exact hname
  next hnamed =>
    cases hname
    exact hspelling hkind hnamed

/-- Children of a kind that always has a name are called by identifiers. -/
theorem AllWellNamed.isValid_of_mem_childrenOfKind {kind : DeclarationKind}
    (h : declaration.AllWellNamed) (hkind : kind.isNamed = true)
    (hchild : child ∈ declaration.childrenOfKind kind) : isValid child.spelling = true := by
  obtain ⟨hmem, heq⟩ := List.mem_filter.mp hchild
  have hnamed := (h.of_mem_children hmem).self.1
  exact hnamed (of_decide_eq_true heq ▸ hkind)

theorem AllWellNamed.isValid_field {record : Declaration} {source : FieldRecord}
    (h : record.AllWellNamed) (hmember : .field declaration source ∈ record.members) :
    isValid declaration.spelling = true :=
  h.isValid_of_mem_childrenOfKind rfl (field_mem_childrenOfKind hmember)

end Declaration

/-! ## Parameters -/

/-- Names that are identifiers, where there are any. -/
def OptionalNames (names : List String) : Prop :=
  ∀ name ∈ names, name ≠ "" → isValid name = true

theorem optionalNames_nil : OptionalNames [] := nofun

theorem Parameter.isValid_nativeName {names : List String} (h : OptionalNames names)
    (index : Nat) : isValid (nativeName names index) = true := by
  have harg : isValid ("arg" ++ toString index) = true := isValid_numbered (by decide +kernel) index
  unfold nativeName
  split
  next name hname =>
    split
    · exact harg
    next hnamed => exact h name (List.mem_of_getElem? hname) hnamed
  next => exact harg

theorem Declaration.AllWellNamed.optionalNames {declaration : Declaration}
    (h : declaration.AllWellNamed) (signature : Signature) :
    OptionalNames (declaration.parameterNames signature) := by
  intro name hname hnamed
  simp only [parameterNames] at hname
  split at hname
  · obtain ⟨param, hparam, rfl⟩ := List.mem_map.mp hname
    obtain ⟨hchild, hkind⟩ := List.mem_filter.mp hparam
    have hkind : param.kind = .parameter := by simpa using hkind
    exact (h.of_mem_children hchild).self.2.1 (by rw [hkind]; rfl) hnamed
  · simp at hname

/-! ## Types -/

/-- All names that an index lists are identifiers. -/
def SymbolIndex.HasValidNames (index : SymbolIndex) : Prop :=
  ∀ name, index.Lists name → isValid name = true

/-- The names of a scope are identifiers. -/
structure MapScope.IsWellNamed (scope : MapScope) : Prop where
  owner : isValid scope.owner = true
  member : isValid scope.member = true
  anonymousRecord : ∀ name, scope.anonymousRecord = some name → isValid name = true

theorem MapScope.isWellNamed_ofMember {owner member : String} (howner : isValid owner = true)
    (hmember : isValid member = true) : (MapScope.ofMember owner member).IsWellNamed :=
  ⟨howner, hmember, nofun⟩

theorem MapScope.IsWellNamed.delegateName {scope : MapScope} (h : scope.IsWellNamed) :
    isValid scope.delegateName = true :=
  isValid_join h.owner h.member

namespace Mapper

variable {mapper : Mapper} {type : NativeType} {position : Position} {scope : MapScope}
  {mapped : ManagedType}

/-- What a type is mapped to can be written if the names of the index and of the scope are
identifiers. -/
theorem Maps.isWellNamed (h : mapper.Maps type position scope mapped)
    (hindex : mapper.index.HasValidNames) (hscope : scope.IsWellNamed) : mapped.IsWellNamed := by
  induction h with
  | overlapped | void | functionAddress | string | address | decayed | text | openArray =>
      intro part hpart
      cases hpart
      trivial
  | scalar fixed =>
      intro part hpart
      rcases TypeKind.eq_bool_or_primitive_of_scalar? fixed with rfl | ⟨_, rfl⟩ <;> cases hpart <;>
        trivial
  | aliased bound => exact .named (hindex _ (.inr (.inr bound)))
  | callback _ _ bound => exact .named (hindex _ (.inr (.inr (aliasOf?_eq_some_iff.mp bound).1)))
  | record bound => exact .named (hindex _ (.inl bound))
  | enumeration bound => exact .named (hindex _ (.inr (.inl bound)))
  | nameless given => exact .named (hscope.anonymousRecord _ given)
  | underlying _ _ _ ih | integer _ _ ih => exact ih hscope
  | array _ _ _ _ ih => exact (ih hscope).array
  | delegate _ _ _ _ _ count named _ ihresult ihparams =>
      -- the scopes of the signature belong to the delegate, which has a name of its own
      have hname := hscope.delegateName
      have hnative := Parameter.isValid_nativeName optionalNames_nil
      refine .delegate hname (ihresult (MapScope.isWellNamed_ofMember hname (by decide +kernel))) ?_
      intro param hparam
      obtain ⟨i, hi, rfl⟩ := List.getElem_of_mem hparam
      refine ⟨named i hi ▸ isWritten_escape (hnative i), ?_⟩
      exact ihparams i hi (count ▸ hi) (MapScope.isWellNamed_ofMember hname (hnative i))

/-- A signature whose parameters have identifiers for names, where they have any. -/
theorem isWellNamed_of_mapSignature {owner : String} {signature : Signature} {names : List String}
    {result : ManagedType} {params : List Parameter}
    (h : mapper.mapSignature owner signature names = .ok (result, params))
    (hindex : mapper.index.HasValidNames) (howner : isValid owner = true)
    (hnames : OptionalNames names) :
    result.IsWellNamed ∧ ∀ param ∈ params, param.IsWellNamed := by
  obtain ⟨hresult, hcount, hparams⟩ := mapSignature_eq_ok_iff.mp h
  constructor
  · exact (maps_of_map hresult).isWellNamed hindex
      (MapScope.isWellNamed_ofMember howner (by decide +kernel))
  · intro param hparam
    obtain ⟨i, hi, rfl⟩ := List.getElem_of_mem hparam
    obtain ⟨hname, htype⟩ := hparams i hi (hcount ▸ hi)
    have hnative := Parameter.isValid_nativeName hnames i
    exact ⟨hname ▸ isWritten_escape hnative,
      (maps_of_map htype).isWellNamed hindex (MapScope.isWellNamed_ofMember howner hnative)⟩

end Mapper

/-! ## Records -/

theorem RecordContext.isWritten_fieldName (context : RecordContext) {native : String}
    (h : isValid native = true) : isWritten (context.fieldName native) = true := by
  unfold fieldName
  split
  · exact isWritten_append_underscore (isWritten_escape h)
  · exact isWritten_escape h

namespace RecordMember

variable {mapper : Mapper} {context : RecordContext} {record : Declaration}
  {member : RecordMember} {lowered : LoweredMember} {symbol : BindingSymbol}

theorem isValid_label (hrecord : record.AllWellNamed) (hmember : member ∈ record.members) :
    isValid member.label = true := by
  cases member with
  | anonymous number nested => exact isValid_numbered (by decide +kernel) number
  | field declaration source => exact hrecord.isValid_field hmember

namespace Lowers

/-- A record is lifted out for a member under the name that continues with the member's label. -/
theorem exists_lowered_of_mem_hoisted (h : Lowers mapper context member lowered)
    (hsymbol : symbol ∈ lowered.hoisted) :
    ∃ nested group, member.nested? = some nested ∧
      mapper.lowerRecordAs nested (context.hoistedName member.label) = .ok group ∧
      symbol ∈ group.symbols := by
  cases h with
  | anonymous hoists => exact ⟨_, _, rfl, hoists.1, hsymbol⟩
  | declared _ hoists => exact ⟨_, _, rfl, hoists.1, hsymbol⟩
  | field | shared => simp at hsymbol

/-- The field for a member has a name and a type that can be written. -/
theorem isWellNamed {name : String}
    (h : Lowers mapper (record.context name) member lowered) (hmember : member ∈ record.members)
    (hindex : mapper.index.HasValidNames) (hname : isValid name = true)
    (hrecord : record.AllWellNamed) :
    isWritten lowered.binding.name = true ∧ lowered.binding.type.IsWellNamed := by
  have hlabel := isValid_label hrecord hmember
  cases h with
  | anonymous =>
      exact ⟨isWritten_iff.mpr (.inl ⟨hlabel, isKeyword_numbered _ _⟩),
        .named (isValid_join hname hlabel)⟩
  | field _ mapped =>
      refine ⟨RecordContext.isWritten_fieldName _ hlabel, ?_⟩
      exact (Mapper.maps_of_map mapped).isWellNamed hindex ⟨hname, hlabel, nofun⟩
  | declared _ _ mapped =>
      refine ⟨RecordContext.isWritten_fieldName _ hlabel, ?_⟩
      refine (Mapper.maps_of_map mapped).isWellNamed hindex ⟨hname, hlabel, ?_⟩
      rintro _ ⟨⟩
      exact isValid_join hname hlabel
  | shared _ mapped =>
      refine ⟨RecordContext.isWritten_fieldName _ hlabel, ?_⟩
      refine (Mapper.maps_of_map mapped).isWellNamed hindex ⟨hname, hlabel, ?_⟩
      rintro _ ⟨⟩
      -- the record was lifted out for an earlier field, under the name of that one
      rcases exists_declared_of_shared hmember with hnone | ⟨first, nested, rfl, hfirst⟩
      · cases hnone
      · exact isValid_join hname (hrecord.isValid_field hfirst)

end Lowers

end RecordMember

namespace Mapper

variable {mapper : Mapper} {naming : NamingPolicy} {kind : SymbolKind} {name : String}
  {declaration record : Declaration} {group : SymbolGroup} {symbol : BindingSymbol}

/-- All symbols of a record can be written, those lifted out of it included. -/
theorem isWellNamed_of_lowerRecordAs (h : mapper.lowerRecordAs record name = .ok group)
    (hindex : mapper.index.HasValidNames) (hname : isValid name = true)
    (hrecord : record.AllWellNamed) (hsymbol : symbol ∈ group.symbols) : symbol.IsWellNamed := by
  -- along the recursion of lowering, where a nested record gets a name continued from `name`
  induction record, name using Mapper.lowerRecordAs.induct generalizing group symbol with
  | case1 record name ih =>
      obtain ⟨members, hmembers, hclose⟩ := lowerRecordAs_eq_ok_iff.mp h
      obtain ⟨-, pack, -, rfl⟩ := RecordContext.close_eq_ok_iff.mp hclose
      rcases List.mem_append.mp hsymbol with hhoisted | hmain
      · obtain ⟨lowered, hlowered, hin⟩ := List.mem_flatMap.mp hhoisted
        obtain ⟨member, hmember, hlowers⟩ := exists_left_of_mem hmembers hlowered
        obtain ⟨nested, inner, hnested, hinner, hsymbol⟩ :=
          hlowers.exists_lowered_of_mem_hoisted hin
        have hlabel := RecordMember.isValid_label hrecord hmember
        exact ih member hmember nested hnested _ hinner (isValid_join hname hlabel)
          (hrecord.of_mem_children (Declaration.nested_mem_children hmember hnested)) hsymbol
      · cases List.mem_singleton.mp hmain
        refine ⟨isWritten_escape hname, SymbolBody.IsWellNamed.record_iff.mpr ?_⟩
        intro binding hbinding
        obtain ⟨lowered, hlowered, rfl⟩ := List.mem_map.mp hbinding
        obtain ⟨member, hmember, hlowers⟩ := exists_left_of_mem hmembers hlowered
        exact hlowers.isWellNamed hmember hindex hname hrecord

end Mapper

/-! ## Enumerations -/

theorem EnumMember.exists_of_mem_ofConstants {previous : Option Int64}
    {constants : List Declaration} {member : EnumMember}
    (h : member ∈ ofConstants previous constants) :
    ∃ constant ∈ constants, member.name = escape constant.spelling := by
  induction constants generalizing previous with
  | nil => simp [ofConstants] at h
  | cons constant constants ih =>
      rw [ofConstants] at h
      rcases List.mem_cons.mp h with rfl | hrest
      · exact ⟨constant, List.mem_cons_self, rfl⟩
      · obtain ⟨other, hother, hname⟩ := ih hrest
        exact ⟨other, List.mem_cons_of_mem _ hother, hname⟩

theorem Declaration.AllWellNamed.isWritten_enumMember {declaration : Declaration}
    (h : declaration.AllWellNamed) {member : EnumMember}
    (hmember : member ∈ EnumMember.ofConstants none (declaration.childrenOfKind .enumerator)) :
    isWritten member.name = true := by
  obtain ⟨constant, hconstant, hname⟩ := EnumMember.exists_of_mem_ofConstants hmember
  rw [hname]
  exact isWritten_escape (h.isValid_of_mem_childrenOfKind rfl hconstant)

/-! ## Groups -/

/-- The name of a function without its dropped leading text is still an identifier. -/
theorem NamingPolicy.isWritten_functionName (naming : NamingPolicy) {native : String}
    (h : isValid native = true) : isWritten (naming.functionName native) = true := by
  apply isWritten_escape
  cases hremainder : naming.remainder? native with
  | none => exact h
  | some rest => exact isValid_of_remainder? hremainder

/-- A declaration that is given a binding is known by an identifier. -/
theorem Declaration.IsWellNamed.isValid_of_nativeName? {declaration : Declaration}
    {kind : SymbolKind} {name : String} (h : declaration.IsWellNamed)
    (hkind : declaration.bindingKind? = some kind)
    (hname : declaration.nativeName? kind = some name) : isValid name = true := by
  have hnative : kind = .struct ∧ declaration.kind.mayBeNamed = true ∨
      kind = .enumeration ∧ declaration.kind.mayBeNamed = true ∨
      (kind = .typedef ∨ kind = .function) ∧ declaration.kind.isNamed = true := by
    unfold bindingKind? at hkind
    grind [DeclarationKind.mayBeNamed, DeclarationKind.isNamed]
  rcases hnative with ⟨rfl, hmay⟩ | ⟨rfl, hmay⟩ | ⟨rfl | rfl, hnamed⟩
  · exact h.isValid_of_typeName? hmay hname
  · exact h.isValid_of_typeName? hmay hname
  · cases hname
    exact h.1 hnamed
  · cases hname
    exact h.1 hnamed

namespace Mapper

variable {mapper : Mapper} {naming : NamingPolicy} {kind : SymbolKind}
  {declaration : Declaration} {group : SymbolGroup} {symbol : BindingSymbol}

/-- The field of a structure around a type, and the parameter of its constructor, have names that
can be written. -/
theorem isWritten_of_mem_wrapperField (type : ManagedType) :
    ∀ name ∈ [wrapperField type, Text.lower (wrapperField type)], isWritten name = true := by
  have hwritten : ∀ field ∈ ["Pointer", "Value"],
      ∀ name ∈ [field, Text.lower field], isWritten name = true := by decide +kernel
  apply hwritten
  unfold wrapperField
  split <;> simp

/-- All symbols of a declaration that is given a binding can be written. -/
theorem Lowers.isWellNamed (h : mapper.Lowers naming kind declaration group)
    (hindex : mapper.index.HasValidNames) (hdeclaration : declaration.AllWellNamed)
    (hkind : declaration.bindingKind? = some kind) (hsymbol : symbol ∈ group.symbols) :
    symbol.IsWellNamed := by
  have hname := hdeclaration.self.isValid_of_nativeName? hkind h.nativeName_eq
  cases h with
  | record named lowered =>
      rw [(main_of_lowerRecordAs lowered).2.1, named] at hname
      exact isWellNamed_of_lowerRecordAs lowered hindex hname hdeclaration hsymbol
  | @delegate _ target signature delegate _ _ _ mapped =>
      cases List.mem_singleton.mp hsymbol
      have hcallable := isWellNamed_of_mapSignature (mapSignature_of_delegate mapped)
        hindex hname (hdeclaration.optionalNames _)
      have howner : delegate.name = declaration.spelling :=
        (Signature.delegateWith_eq_ok_iff.mp mapped).1
      refine ⟨isWritten_escape hname, SymbolBody.IsWellNamed.delegate_iff.mpr ⟨?_, ?_⟩⟩
      · exact howner ▸ isWritten_escape hname
      · exact SymbolBody.IsWellNamed.function_iff.mpr hcallable
  | wrapper _ _ _ mapped =>
      cases List.mem_singleton.mp hsymbol
      have htype := mapped.isWellNamed hindex
        (MapScope.isWellNamed_ofMember hname (by decide +kernel))
      refine ⟨isWritten_escape hname, isWritten_of_mem_wrapperField _, ?_⟩
      exact List.forall_mem_singleton.mpr htype
  | enumeration =>
      cases List.mem_singleton.mp hsymbol
      refine ⟨isWritten_escape hname, List.forall_mem_map.mpr ?_, nofun⟩
      intro member hmember
      exact hdeclaration.isWritten_enumMember hmember
  | function _ _ _ _ mapped =>
      cases List.mem_singleton.mp hsymbol
      have hcallable := isWellNamed_of_mapSignature mapped hindex hname
        (hdeclaration.optionalNames _)
      exact ⟨naming.isWritten_functionName hname, SymbolBody.IsWellNamed.function_iff.mpr hcallable⟩

end Mapper

end Interop
