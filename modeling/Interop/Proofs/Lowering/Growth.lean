import Interop.Proofs.Lowering.Groups
import Interop.Proofs.Mapping.Growth

/-!
# Lowering with a larger index

What a declaration becomes when the index grows: the same symbols under the same names, of which
none holds a managed reference that did not before. Records lifted out of one another are
compared one by one, since a record knows of those before it whether they hold none.
-/

namespace Interop

namespace RecordMember

/-- A record that a member lifts out has no name, or is an anonymous member. -/
theorem isAnonymousMember_or_nameless {number : Nat} {pending : Option Declaration}
    {last : Option String} {children : List Declaration} {member : RecordMember}
    {record : Declaration} (hmem : member ∈ ofChildren number pending last children)
    (hpending : ∀ record, pending = some record → record.typeName? = none)
    (h : member.nested? = some record) :
    record.kind.isRecord = true ∧ record.isAnonymousMember = true ∨ record.typeName? = none := by
  fun_induction ofChildren number pending last children with
  | case1 => simp at hmem
  | case2 number pending last child children hrecord hanonymous ih =>
      rcases List.mem_cons.mp hmem with rfl | hrest
      · cases h
        exact .inl ⟨((Bool.and_eq_true _ _).mp hrecord).1, hanonymous⟩
      · exact ih hrest hpending
  | case3 number pending last child children _ _ hnameless ih =>
      refine ih hmem fun other hother => ?_
      cases hother
      simpa using hnameless
  | case4 number pending last child children _ _ _ ih => exact ih hmem hpending
  | case5 number pending last child children _ _ _ last' ih =>
      rcases List.mem_cons.mp hmem with rfl | hrest
      · refine .inr (hpending record ?_)
        cases hrecord : recordFor pending last' with
        | declared other =>
            rw [hrecord] at h
            cases h
            exact recordFor_eq_declared hrecord
        | none | shared | missing =>
            rw [hrecord] at h
            cases h
      · exact ih hrest (by simp)
  | case6 number pending last child children _ _ _ ih =>
      rcases List.mem_cons.mp hmem with rfl | hrest
      · cases h
      · exact ih hrest hpending
  | case7 number pending last child children _ _ ih => exact ih hmem hpending

end RecordMember

namespace Mapper

/-- Records lifted out are emitted under their native names when anonymous members have none of
their own. -/
theorem emittedName_of_mem_hoisted {mapper : Mapper} {record : Declaration} {name : String}
    {group : SymbolGroup} (h : mapper.lowerRecordAs record name = .ok group)
    (nameless : ∀ node ∈ record.nodes, node.kind.isRecord = true →
      node.isAnonymousMember = true → node.typeName? = none)
    {symbol : BindingSymbol} (hsymbol : symbol ∈ group.hoisted) :
    symbol.emittedName = Identifier.escape symbol.nativeName := by
  induction record, name using Mapper.lowerRecordAs.induct generalizing group symbol with
  | case1 record name ih =>
      obtain ⟨members, hmembers, hclose⟩ := lowerRecordAs_eq_ok_iff.mp h
      obtain ⟨-, pack, -, rfl⟩ := RecordContext.close_eq_ok_iff.mp hclose
      obtain ⟨member, hmember, -, -, label, nested, inner, hnested, hhoists, -, hin⟩ :=
        RecordMember.Lowers.exists_group_of_mem_hoisted hmembers hsymbol
      have hchild := Declaration.nodes_child (Declaration.nested_mem_children hmember hnested)
      rcases List.mem_append.mp hin with hhoisted | hmain
      · exact ih member hmember nested hnested _ hhoists.1
          (fun node hnode => nameless node (hchild hnode)) hhoisted
      · have hnone : nested.typeName? = none := by
          rcases RecordMember.isAnonymousMember_or_nameless hmember (by simp) hnested with
            ⟨hrecord, hanonymous⟩ | hnone
          · exact nameless nested (hchild nested.mem_nodes) hrecord hanonymous
          · exact hnone
        obtain ⟨-, hnative, hemitted, -⟩ := main_of_lowerRecordAs hhoists.1
        rw [List.mem_singleton.mp hmain, hemitted, hnative, hnone]
        rfl

end Mapper

namespace Mapper

variable {small large : Mapper} {types : List NativeType}

/-- A symbol under the smaller and under the larger index. -/
structure SymbolGrows (small large : Mapper) (symbol symbol' : BindingSymbol) : Prop where
  nativeName_eq : symbol'.nativeName = symbol.nativeName
  plain : ∀ plain plain' : NameSet, (∀ name ∈ plain, ¬ small.index.Lists name) →
    (∀ name ∈ plain, name ∈ plain') → small.isPlainRecord plain symbol = true →
    large.isPlainRecord plain' symbol' = true

/-- The symbols of a declaration under the smaller and under the larger index. -/
structure GroupGrows (small large : Mapper) (group group' : SymbolGroup) : Prop where
  hoisted : List.Forall₂ (SymbolGrows small large) group.hoisted group'.hoisted
  main : SymbolGrows small large group.main group'.main

theorem GroupGrows.symbols {group group' : SymbolGroup} (h : GroupGrows small large group group') :
    List.Forall₂ (SymbolGrows small large) group.symbols group'.symbols :=
  List.rel_append h.hoisted (.cons h.main .nil)

theorem isPlainRecord_record {mapper : Mapper} {plain : NameSet} {symbol : BindingSymbol}
    {isUnion : Bool} {pack : Option UInt64} {fields : List FieldBinding}
    (hbody : symbol.body = .record isUnion pack fields) :
    mapper.isPlainRecord plain symbol =
      fields.all fun field => mapper.isPlainType plain field.type := by
  rw [isPlainRecord, hbody]
  rfl

/-- The records found to hold no managed reference stay so. -/
theorem plainRecords_grows {symbols symbols' : List BindingSymbol}
    (h : List.Forall₂ (SymbolGrows small large) symbols symbols')
    (unlisted : ∀ symbol ∈ symbols, ¬ small.index.Lists symbol.nativeName) :
    (∀ name ∈ small.plainRecords symbols, ¬ small.index.Lists name) ∧
      ∀ name ∈ small.plainRecords symbols, name ∈ large.plainRecords symbols' := by
  have hfold : ∀ plain plain' : NameSet, (∀ name ∈ plain, ¬ small.index.Lists name) →
      (∀ name ∈ plain, name ∈ plain') →
      let found := symbols.foldl (fun plain symbol =>
        if small.isPlainRecord plain symbol then plain.insert symbol.nativeName else plain) plain
      let found' := symbols'.foldl (fun plain symbol =>
        if large.isPlainRecord plain symbol then plain.insert symbol.nativeName else plain) plain'
      (∀ name ∈ found, ¬ small.index.Lists name) ∧ ∀ name ∈ found, name ∈ found' := by
    induction h with
    | nil => exact fun _ _ hunlisted hmore => ⟨hunlisted, hmore⟩
    | @cons symbol symbol' symbols symbols' head _ ih =>
        intro plain plain' hunlisted hmore
        have hrest := ih fun other hother => unlisted other (List.mem_cons_of_mem _ hother)
        have hhead := unlisted symbol List.mem_cons_self
        rw [List.foldl_cons, List.foldl_cons]
        by_cases hplain : small.isPlainRecord plain symbol = true
        · rw [if_pos hplain, if_pos (head.plain plain plain' hunlisted hmore hplain)]
          refine hrest _ _ ?_ ?_
          · intro name hname
            rcases NameSet.mem_insert.mp hname with rfl | hname
            · exact hhead
            · exact hunlisted name hname
          · intro name hname
            rw [head.nativeName_eq, NameSet.mem_insert]
            exact (NameSet.mem_insert.mp hname).imp_right (hmore name)
        · rw [if_neg hplain]
          refine hrest _ _ hunlisted fun name hname => ?_
          split
          · exact NameSet.mem_insert.mpr (.inr (hmore name hname))
          · exact hmore name hname
  exact hfold ∅ ∅ (fun name hname => absurd hname (NameSet.not_mem_empty name))
    fun _ hname => hname

/-- A record found to hold no managed reference stays so. -/
theorem GroupGrows.isBlittableGroup {group group' : SymbolGroup}
    (h : GroupGrows small large group group')
    (unlisted : ∀ symbol ∈ group.hoisted, ¬ small.index.Lists symbol.nativeName)
    (hblittable : small.isBlittableGroup group = true) :
    large.isBlittableGroup group' = true := by
  obtain ⟨hunlisted, hmore⟩ := plainRecords_grows h.hoisted unlisted
  exact h.main.plain _ _ hunlisted hmore hblittable

end Mapper

/-- A member of a record under the smaller and under the larger index. -/
structure LoweredMember.Grows (small large : Mapper) (member member' : LoweredMember) : Prop where
  slot_eq : member'.slot? = member.slot?
  hoisted : List.Forall₂ (Mapper.SymbolGrows small large) member.hoisted member'.hoisted
  type : Mapper.KeepsPlain small large member.binding.type member'.binding.type

namespace LoweredMember

variable {small large : Mapper} {members members' : List LoweredMember}

theorem slots?_grows (h : List.Forall₂ (Grows small large) members members') :
    slots? members' = slots? members := by
  induction h with
  | nil => rfl
  | cons head _ ih => rw [slots?, slots?, head.slot_eq, ih]

theorem hoisted_grows (h : List.Forall₂ (Grows small large) members members') :
    List.Forall₂ (Mapper.SymbolGrows small large) (members.flatMap (·.hoisted))
      (members'.flatMap (·.hoisted)) := by
  induction h with
  | nil => exact .nil
  | cons head _ ih =>
      rw [List.flatMap_cons, List.flatMap_cons]
      exact List.rel_append head.hoisted ih

theorem types_grow (h : List.Forall₂ (Grows small large) members members')
    {plain plain' : NameSet} (unlisted : ∀ name ∈ plain, ¬ small.index.Lists name)
    (more : ∀ name ∈ plain, name ∈ plain')
    (hplain : members.all (fun member => small.isPlainType plain member.binding.type) = true) :
    members'.all (fun member => large.isPlainType plain' member.binding.type) = true := by
  induction h with
  | nil => rfl
  | cons head _ ih =>
      rw [List.all_cons, Bool.and_eq_true] at hplain ⊢
      exact ⟨head.type plain plain' unlisted more hplain.1, ih hplain.2⟩

end LoweredMember

namespace Mapper

variable {small large : Mapper} {types : List NativeType}

/-- The structure of members that grow is the structure of the grown members. -/
theorem close_grows {context : RecordContext} {record : Declaration}
    {members members' : List LoweredMember} {group : SymbolGroup}
    (h : List.Forall₂ (LoweredMember.Grows small large) members members')
    (hclose : context.close record members = .ok group) :
    ∃ group', context.close record members' = .ok group' ∧ GroupGrows small large group group' := by
  obtain ⟨hmembers, pack, hpack, rfl⟩ := RecordContext.close_eq_ok_iff.mp hclose
  refine ⟨context.structureOf record members' pack, RecordContext.close_eq_ok_iff.mpr ⟨?_, pack,
    ?_, rfl⟩, LoweredMember.hoisted_grows h, rfl, ?_⟩
  · rintro rfl
    cases h
    exact hmembers rfl
  · rw [RecordContext.packing, LoweredMember.slots?_grows h]
    exact hpack
  · intro plain plain' unlisted more hplain
    rw [isPlainRecord_record rfl, List.all_map] at hplain ⊢
    exact LoweredMember.types_grow h unlisted more hplain

theorem isStored_ofField (inUnion : Bool) : (Position.ofField inUnion).isStored = true := by
  cases inUnion <;> rfl

/-- A member that the smaller index lowers the larger one lowers too, if it does so with the
record that the member lifts out. -/
theorem lowers_member_grows (grows : Grows small large types) {context : RecordContext}
    {member : RecordMember} {lowered : LoweredMember}
    (h : RecordMember.Lowers small context member lowered)
    (fields : ∀ declaration source, member = .field declaration source →
      declaration.type.parts ⊆ types)
    (lifted : ∀ label nested inner, member.nested? = some nested →
      RecordMember.Hoists small context label nested inner → lowered.hoisted = inner.symbols →
      ∃ inner', RecordMember.Hoists large context label nested inner' ∧
        GroupGrows small large inner inner') :
    ∃ lowered', RecordMember.Lowers large context member lowered' ∧
      LoweredMember.Grows small large lowered lowered' := by
  have hstored := isStored_ofField context.isUnion
  cases h with
  | anonymous hoists =>
      obtain ⟨inner', hoists', hgroup⟩ := lifted _ _ _ rfl hoists rfl
      exact ⟨_, .anonymous hoists', rfl, hgroup.symbols, KeepsPlain.refl grows.within _⟩
  | field whole mapped =>
      obtain ⟨type', hmaps, hplain⟩ := (maps_of_map mapped).grows grows (fields _ _ rfl)
      exact ⟨_, .field whole hmaps.map_eq, rfl, .nil, hplain hstored⟩
  | declared whole hoists mapped =>
      obtain ⟨inner', hoists', hgroup⟩ := lifted _ _ _ rfl hoists rfl
      obtain ⟨type', hmaps, hplain⟩ := (maps_of_map mapped).grows grows (fields _ _ rfl)
      exact ⟨_, .declared whole hoists' hmaps.map_eq, rfl, hgroup.symbols, hplain hstored⟩
  | shared whole mapped =>
      obtain ⟨type', hmaps, hplain⟩ := (maps_of_map mapped).grows grows (fields _ _ rfl)
      exact ⟨_, .shared whole hmaps.map_eq, rfl, .nil, hplain hstored⟩

/-- Members that the smaller index lowers the larger one lowers too, if it does so with each of
them. -/
theorem lowers_members_grows {context : RecordContext} {all : List RecordMember}
    {members : List LoweredMember}
    (h : List.Forall₂ (RecordMember.Lowers small context) all members)
    (each : ∀ member ∈ all, ∀ lowered ∈ members,
      RecordMember.Lowers small context member lowered →
      ∃ lowered', RecordMember.Lowers large context member lowered' ∧
        LoweredMember.Grows small large lowered lowered') :
    ∃ members', List.Forall₂ (RecordMember.Lowers large context) all members' ∧
      List.Forall₂ (LoweredMember.Grows small large) members members' := by
  induction h with
  | nil => exact ⟨[], .nil, .nil⟩
  | @cons member lowered rest lowereds head _ ih =>
      obtain ⟨lowered', hlowers', hgrows⟩ :=
        each member List.mem_cons_self lowered List.mem_cons_self head
      obtain ⟨members', hrest, hrestGrows⟩ := ih fun other hother item hitem =>
        each other (List.mem_cons_of_mem _ hother) item (List.mem_cons_of_mem _ hitem)
      exact ⟨lowered' :: members', .cons hlowers' hrest, .cons hgrows hrestGrows⟩

/-- A record that the smaller index lowers the larger one lowers too. The records lifted out may
not be listed, or they would be taken for records of the index. -/
theorem lowerRecordAs_grows (grows : Grows small large types) {record : Declaration}
    {name : String} {group : SymbolGroup} (hlower : small.lowerRecordAs record name = .ok group)
    (htypes : record.types ⊆ types)
    (unlisted : ∀ symbol ∈ group.hoisted, ¬ small.index.Lists symbol.nativeName) :
    ∃ group', large.lowerRecordAs record name = .ok group' ∧
      GroupGrows small large group group' := by
  induction record, name using Mapper.lowerRecordAs.induct generalizing group with
  | case1 record name ih =>
      obtain ⟨members, hmembers, hclose⟩ := lowerRecordAs_eq_ok_iff.mp hlower
      have hhoisted : group.hoisted = members.flatMap (·.hoisted) := by
        obtain ⟨-, pack, -, rfl⟩ := RecordContext.close_eq_ok_iff.mp hclose
        rfl
      have hall : ∃ members', List.Forall₂ (RecordMember.Lowers large (record.context name))
          record.members members' ∧
          List.Forall₂ (LoweredMember.Grows small large) members members' := by
        apply lowers_members_grows hmembers
        intro member hmember lowered hlowered hlowers
        apply lowers_member_grows grows hlowers
        · rintro declaration source rfl
          exact List.Subset.trans (Declaration.parts_field hmember) htypes
        · intro label nested inner hnested hhoists heq
          have hfree : ∀ symbol ∈ inner.hoisted, ¬ small.index.Lists symbol.nativeName := by
            intro symbol hsymbol
            apply unlisted symbol
            rw [hhoisted, List.mem_flatMap]
            exact ⟨lowered, hlowered, heq ▸ SymbolGroup.mem_symbols_of_mem_hoisted hsymbol⟩
          obtain ⟨inner', hlower', hgroup⟩ := ih member hmember nested hnested _ hhoists.1
            (List.Subset.trans (Declaration.types_nested hmember hnested) htypes) hfree
          -- where members overlap, the lifted record still holds no managed reference
          have hplain := fun hunion => hgroup.isBlittableGroup hfree (hhoists.2 hunion)
          exact ⟨inner', ⟨hlower', hplain⟩, hgroup⟩
      obtain ⟨members', hmembers', hgrows⟩ := hall
      obtain ⟨group', hclose', hgroup⟩ := close_grows hgrows hclose
      exact ⟨group', lowerRecordAs_eq_ok_iff.mpr ⟨members', hmembers', hclose'⟩, hgroup⟩

/-- What the smaller index lowers the larger one lowers too, and keeps free of managed
references. -/
theorem Lowers.grows (grows : Grows small large types) {naming : NamingPolicy} {kind : SymbolKind}
    {declaration : Declaration} {group : SymbolGroup}
    (h : small.Lowers naming kind declaration group) (htypes : declaration.types ⊆ types)
    (unlisted : ∀ symbol ∈ group.hoisted, ¬ small.index.Lists symbol.nativeName) :
    ∃ group', large.Lowers naming kind declaration group' ∧
      (small.holdsNoReference group = true → large.holdsNoReference group' = true) := by
  cases h with
  | record named lowered =>
      obtain ⟨group', hlower', hgroup⟩ := lowerRecordAs_grows grows lowered htypes unlisted
      refine ⟨group', .record named hlower', ?_⟩
      obtain ⟨-, -, -, isUnion, pack, fields, hbody⟩ := main_of_lowerRecordAs lowered
      obtain ⟨-, -, -, isUnion', pack', fields', hbody'⟩ := main_of_lowerRecordAs hlower'
      rw [holdsNoReference, holdsNoReference, hbody, hbody']
      exact hgroup.isBlittableGroup unlisted
  | @delegate _ target signature _ targeted untagged function mapped =>
      have htarget := List.Subset.trans (Declaration.parts_typedefTarget? targeted) htypes
      obtain ⟨delegate', hdelegate'⟩ := delegate_grows grows mapped
        (List.Subset.trans (NativeType.parts_of_signature? function) htarget)
      refine ⟨_, .delegate targeted untagged function hdelegate', ?_⟩
      nofun
  | @wrapper _ target type targeted untagged object mapped =>
      have htarget := List.Subset.trans (Declaration.parts_typedefTarget? targeted) htypes
      obtain ⟨type', hmaps, hplain⟩ := mapped.grows grows htarget
      refine ⟨_, .wrapper targeted untagged object hmaps, fun hblittable => ?_⟩
      exact isBlittable_of_keepsPlain (hplain rfl) hblittable
  | enumeration named underlying => exact ⟨_, .enumeration named underlying, nofun⟩
  | @function _ signature _ _ _ wanted visible typed callable mapped =>
      have hsignature := List.Subset.trans (NativeType.parts_of_signature? typed)
        (List.Subset.trans declaration.parts_type htypes)
      obtain ⟨⟨result', params'⟩, hmapped'⟩ := mapSignature_grows grows mapped hsignature
      refine ⟨_, .function wanted visible typed callable hmapped', ?_⟩
      nofun

end Mapper

end Interop
