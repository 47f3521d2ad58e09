import Interop.Lowering.Record
import Interop.Proofs.Mapping.References
import Mathlib.Data.List.Forall2

/-!
# How records are lowered

Lowering a record goes member by member and stops at the first failure. `RecordMember.Lowers`
says what a member becomes when it does not fail, one rule for each way in which its type may use
a nameless record, and `Mapper.lowerRecordAs_eq_ok_iff` says that a record is lowered when all of
its members are and the layout check accepts the result.

Two facts about every group follow by induction on the nesting of records: all its symbols are
structures, and what they refer to is in the index or was lifted out in the same group.
-/

namespace Interop

/-! ## Lists -/

section

variable {α β : Type} {Related : α → β → Prop} {left : List α} {right : List β}

theorem exists_right_of_mem (h : List.Forall₂ Related left right) {item : α}
    (hmem : item ∈ left) : ∃ other ∈ right, Related item other := by
  induction h with
  | nil => simp at hmem
  | cons head _ ih =>
      rcases List.mem_cons.mp hmem with rfl | hrest
      · exact ⟨_, List.mem_cons_self, head⟩
      · obtain ⟨other, hother, hrelated⟩ := ih hrest
        exact ⟨other, List.mem_cons_of_mem _ hother, hrelated⟩

theorem exists_left_of_mem (h : List.Forall₂ Related left right) {other : β}
    (hmem : other ∈ right) : ∃ item ∈ left, Related item other :=
  exists_right_of_mem h.flip hmem

theorem map_eq_map_of_forall₂ {γ : Type} {f : α → γ} {g : β → γ}
    (h : List.Forall₂ Related left right) (agree : ∀ item other, Related item other →
      f item = g other) : left.map f = right.map g := by
  induction h with
  | nil => rfl
  | cons head _ ih => rw [List.map_cons, List.map_cons, agree _ _ head, ih]

end

/-! ## Members -/

namespace RecordMember

variable {mapper : Mapper} {context : RecordContext}

/-- A record that a member lifts out, under a name of its own. In a union it holds no managed
reference. -/
def Hoists (mapper : Mapper) (context : RecordContext) (label : String) (record : Declaration)
    (group : SymbolGroup) : Prop :=
  mapper.lowerRecordAs record (context.hoistedName label) = .ok group ∧
    (context.isUnion = true → mapper.isBlittableGroup group = true)

/-- What a member of a record becomes. -/
inductive Lowers (mapper : Mapper) (context : RecordContext) :
    RecordMember → LoweredMember → Prop
  | anonymous {number : Nat} {record : Declaration} {group : SymbolGroup}
      (hoists : Hoists mapper context ("Anonymous" ++ toString number) record group) :
      Lowers mapper context (.anonymous number record)
        ⟨group.symbols, ⟨"Anonymous" ++ toString number, "",
          .named (context.hoistedName ("Anonymous" ++ toString number))⟩, record.type.layout, none⟩
  | field {declaration : Declaration} {type : ManagedType}
      (whole : declaration.bitWidth = none)
      (mapped : mapper.map declaration.type (.ofField context.isUnion)
        ⟨context.name, declaration.spelling, none⟩ = .ok type) :
      Lowers mapper context (.field declaration .none)
        ⟨[], ⟨context.fieldName declaration.spelling, declaration.spelling, type⟩,
          declaration.type.layout, declaration.fieldOffsetBits⟩
  | declared {declaration record : Declaration} {group : SymbolGroup} {type : ManagedType}
      (whole : declaration.bitWidth = none)
      (hoists : Hoists mapper context declaration.spelling record group)
      (mapped : mapper.map declaration.type (.ofField context.isUnion)
        ⟨context.name, declaration.spelling, some (context.hoistedName declaration.spelling)⟩ =
          .ok type) :
      Lowers mapper context (.field declaration (.declared record))
        ⟨group.symbols, ⟨context.fieldName declaration.spelling, declaration.spelling, type⟩,
          declaration.type.layout, declaration.fieldOffsetBits⟩
  | shared {declaration : Declaration} {first : String} {type : ManagedType}
      (whole : declaration.bitWidth = none)
      (mapped : mapper.map declaration.type (.ofField context.isUnion)
        ⟨context.name, declaration.spelling, some (context.hoistedName first)⟩ = .ok type) :
      Lowers mapper context (.field declaration (.shared first))
        ⟨[], ⟨context.fieldName declaration.spelling, declaration.spelling, type⟩,
          declaration.type.layout, declaration.fieldOffsetBits⟩

/-- A record that a member lifts out for its own use and that of later fields. -/
def Provides (mapper : Mapper) (context : RecordContext) (member : RecordMember)
    (lowered : LoweredMember) (name : String) : Prop :=
  ∃ label nested group, member.nested? = some nested ∧
    Hoists mapper context label nested group ∧ lowered.hoisted = group.symbols ∧
    name = context.hoistedName label

/-- One of the members of a record lifts out a record called `name`. -/
def SomeProvides (mapper : Mapper) (context : RecordContext) (members : List RecordMember)
    (lowered : List LoweredMember) (name : String) : Prop :=
  ∃ member ∈ members, ∃ other ∈ lowered, Provides mapper context member other name

theorem hoist_eq_ok_iff {label : String} {record : Declaration} {symbols : List BindingSymbol} :
    hoist mapper context label (mapper.lowerRecordAs record) = .ok symbols ↔
      ∃ group, Hoists mapper context label record group ∧ group.symbols = symbols := by
  simp only [hoist, Hoists, Outcome.mapError_eq_ok_iff, Outcome.bind_eq_ok_iff]
  constructor
  · rintro ⟨group, hgroup, hsymbols⟩
    by_cases hrefused : (context.isUnion && !mapper.isBlittableGroup group) = true
    · rw [if_pos hrefused] at hsymbols
      cases hsymbols
    · rw [if_neg hrefused] at hsymbols
      cases hsymbols
      exact ⟨group, ⟨hgroup, by simpa using hrefused⟩, rfl⟩
  · rintro ⟨group, ⟨hgroup, hplain⟩, rfl⟩
    have haccepted : ¬ (context.isUnion && !mapper.isBlittableGroup group) = true := by
      simpa using hplain
    refine ⟨group, hgroup, ?_⟩
    rw [if_neg haccepted]

theorem lowerField_eq_ok_iff {field : Declaration} {hoisted : List BindingSymbol}
    {record : Option String} {lowered : LoweredMember} :
    lowerField mapper context field hoisted record = .ok lowered ↔
      ∃ type, mapper.map field.type (.ofField context.isUnion)
          ⟨context.name, field.spelling, record⟩ = .ok type ∧
        lowered = ⟨hoisted, ⟨context.fieldName field.spelling, field.spelling, type⟩,
          field.type.layout, field.fieldOffsetBits⟩ := by
  simp only [lowerField, Outcome.bind_eq_ok_iff, Outcome.mapError_eq_ok_iff, Except.ok.injEq]
  constructor
  · rintro ⟨type, hmap, rfl⟩
    exact ⟨type, hmap, rfl⟩
  · rintro ⟨type, hmap, rfl⟩
    exact ⟨type, hmap, rfl⟩

/-- Lowering a member follows the rules. -/
theorem lowerWith_eq_ok_iff {member : RecordMember} {lowered : LoweredMember} :
    member.lowerWith mapper context (fun nested _ => mapper.lowerRecordAs nested) = .ok lowered ↔
      Lowers mapper context member lowered := by
  constructor
  · intro h
    cases member with
    | anonymous number record =>
        obtain ⟨hoisted, hhoist, heq⟩ := Outcome.bind_eq_ok_iff.mp h
        obtain ⟨group, hgroup, rfl⟩ := hoist_eq_ok_iff.mp hhoist
        cases heq
        exact .anonymous hgroup
    | field declaration record =>
        simp only [lowerWith] at h
        split at h
        · cases h
        · rename_i hbits
          have whole : declaration.bitWidth = none := by simpa using hbits
          cases record with
          | none =>
              obtain ⟨type, hmap, rfl⟩ := lowerField_eq_ok_iff.mp h
              exact .field whole hmap
          | declared nested =>
              obtain ⟨hoisted, hhoist, hfield⟩ := Outcome.bind_eq_ok_iff.mp h
              obtain ⟨group, hgroup, rfl⟩ := hoist_eq_ok_iff.mp hhoist
              obtain ⟨type, hmap, rfl⟩ := lowerField_eq_ok_iff.mp hfield
              exact .declared whole hgroup hmap
          | shared first =>
              obtain ⟨type, hmap, rfl⟩ := lowerField_eq_ok_iff.mp h
              exact .shared whole hmap
          | missing => cases h
  · intro h
    cases h with
    | anonymous hoists =>
        exact Outcome.bind_eq_ok_iff.mpr ⟨_, hoist_eq_ok_iff.mpr ⟨_, hoists, rfl⟩, rfl⟩
    | field whole mapped =>
        simp only [lowerWith, whole]
        exact lowerField_eq_ok_iff.mpr ⟨_, mapped, rfl⟩
    | declared whole hoists mapped =>
        simp only [lowerWith, whole]
        exact Outcome.bind_eq_ok_iff.mpr ⟨_, hoist_eq_ok_iff.mpr ⟨_, hoists, rfl⟩,
          lowerField_eq_ok_iff.mpr ⟨_, mapped, rfl⟩⟩
    | shared whole mapped =>
        simp only [lowerWith, whole]
        exact lowerField_eq_ok_iff.mpr ⟨_, mapped, rfl⟩

/-- All members are lowered, each by the rules. -/
theorem lowerAll_eq_ok_iff {members : List RecordMember} {lowered : List LoweredMember} :
    lowerAll mapper context members (fun _ _ nested _ => mapper.lowerRecordAs nested) =
        .ok lowered ↔
      List.Forall₂ (Lowers mapper context) members lowered := by
  induction members generalizing lowered with
  | nil =>
      rw [List.forall₂_nil_left_iff, lowerAll]
      simp [eq_comm]
  | cons member members ih =>
      rw [List.forall₂_cons_left_iff, lowerAll]
      simp only [Outcome.bind_eq_ok_iff, lowerWith_eq_ok_iff, ih, Except.ok.injEq]
      constructor
      · rintro ⟨first, hfirst, rest, hrest, rfl⟩
        exact ⟨first, rest, hfirst, hrest, rfl⟩
      · rintro ⟨first, rest, hfirst, hrest, rfl⟩
        exact ⟨first, hfirst, rest, hrest, rfl⟩

theorem recordFor_eq_shared {pending : Option Declaration} {last : Option String}
    {first : String} (h : recordFor pending last = .shared first) :
    pending = none ∧ last = some first := by
  unfold recordFor at h
  split at h <;> simp_all

/-- A shared nameless record was declared by a field before, in the same record. -/
theorem exists_declared_of_shared {number : Nat} {pending : Option Declaration}
    {last : Option String} {children : List Declaration} {declaration : Declaration}
    {first : String}
    (hmem : .field declaration (.shared first) ∈ ofChildren number pending last children) :
    last = some first ∨ ∃ other record, other.spelling = first ∧
      .field other (.declared record) ∈ ofChildren number pending last children := by
  fun_induction ofChildren number pending last children with
  | case1 => simp at hmem
  | case2 number pending last child children _ _ ih =>
      have := ih (by simpa using hmem)
      grind
  | case3 number pending last child children _ _ _ ih => exact ih hmem
  | case4 number pending last child children _ _ _ ih => exact ih hmem
  | case5 number pending last child children _ _ _ last' ih =>
      rcases List.mem_cons.mp hmem with heq | hrest
      · cases pending with
        | some record => simp [recordFor] at heq
        | none =>
            exact .inl (recordFor_eq_shared (RecordMember.field.inj heq).2.symm).2
      · cases pending with
        | none =>
            have := ih hrest
            grind
        | some record =>
            refine .inr ?_
            rcases ih hrest with hlast | ⟨other, nested, hspelling, hother⟩
            · exact ⟨child, record, by grind, by simp [recordFor]⟩
            · exact ⟨other, nested, hspelling, List.mem_cons_of_mem _ hother⟩
  | case6 number pending last child children _ _ _ ih =>
      have := ih (by simpa using hmem)
      grind
  | case7 number pending last child children _ _ ih => exact ih hmem

end RecordMember

/-! ## Records -/

namespace RecordContext

/-- The check of the layout: what the structure has to be packed to, if anything. A member of
unknown layout leaves it unchecked. -/
def packing (context : RecordContext) (record : Declaration) (members : List LoweredMember) :
    Except MappingError (Option UInt64) :=
  match record.type.layout, LoweredMember.slots? members with
  | some layout, some slots => layout.pack? context.isUnion slots
  | _, _ => .ok none

variable {context : RecordContext} {record : Declaration} {members : List LoweredMember}
  {group : SymbolGroup}

/-- The structure of lowered members. -/
def structureOf (context : RecordContext) (record : Declaration) (members : List LoweredMember)
    (pack : Option UInt64) : SymbolGroup :=
  ⟨members.flatMap (·.hoisted),
    ⟨.struct, record.typeName?.getD context.name, Identifier.escape context.name,
      .record context.isUnion pack (members.map (·.binding))⟩⟩

theorem close_cons {member : LoweredMember} :
    context.close record (member :: members) =
      context.packing record (member :: members) >>= fun pack =>
        .ok (context.structureOf record (member :: members) pack) := by
  simp only [close, packing, List.isEmpty_cons, Bool.false_eq_true, if_false]
  cases record.type.layout with
  | none => rfl
  | some layout =>
      cases LoweredMember.slots? (member :: members) with
      | none => rfl
      | some slots => rfl

/-- What it takes for lowered members to become a structure. -/
theorem close_eq_ok_iff :
    context.close record members = .ok group ↔
      members ≠ [] ∧ ∃ pack, context.packing record members = .ok pack ∧
        group = context.structureOf record members pack := by
  cases members with
  | nil => simp [close, bind, Except.bind]
  | cons member members =>
      rw [close_cons, Outcome.bind_eq_ok_iff]
      constructor
      · rintro ⟨pack, hpack, heq⟩
        cases heq
        exact ⟨by simp, pack, hpack, rfl⟩
      · rintro ⟨-, pack, hpack, rfl⟩
        exact ⟨pack, hpack, rfl⟩

end RecordContext

/-- The record that the members of a definition belong to when it is to be called `name`. -/
def Declaration.context (record : Declaration) (name : String) : RecordContext :=
  ⟨name, record.kind = .union⟩

namespace Mapper

variable {mapper : Mapper} {record : Declaration} {name : String} {group : SymbolGroup}

/-- A record is lowered when all its members are and the result passes the layout check. -/
theorem lowerRecordAs_eq_ok_iff :
    mapper.lowerRecordAs record name = .ok group ↔
      ∃ members, List.Forall₂ (RecordMember.Lowers mapper (record.context name)) record.members
          members ∧
        (record.context name).close record members = .ok group := by
  rw [lowerRecordAs]
  simp only [Outcome.bind_eq_ok_iff, RecordMember.lowerAll_eq_ok_iff]
  rfl

/-- The declaration of a lowered record. -/
theorem main_of_lowerRecordAs (h : mapper.lowerRecordAs record name = .ok group) :
    group.main.kind = .struct ∧ group.main.nativeName = record.typeName?.getD name ∧
      group.main.emittedName = Identifier.escape name ∧
      ∃ isUnion pack fields, group.main.body = .record isUnion pack fields := by
  obtain ⟨members, -, hclose⟩ := lowerRecordAs_eq_ok_iff.mp h
  obtain ⟨-, pack, -, rfl⟩ := RecordContext.close_eq_ok_iff.mp hclose
  exact ⟨rfl, rfl, rfl, _, _, _, rfl⟩

end Mapper

namespace RecordMember.Lowers

variable {mapper : Mapper} {context : RecordContext} {member : RecordMember}
  {lowered : LoweredMember}

/-- What a member lifts out is the group of a nested record. -/
theorem exists_group_of_mem (h : Lowers mapper context member lowered) {symbol : BindingSymbol}
    (hsymbol : symbol ∈ lowered.hoisted) :
    ∃ label nested group, member.nested? = some nested ∧
      Hoists mapper context label nested group ∧ lowered.hoisted = group.symbols := by
  cases h with
  | anonymous hoists => exact ⟨_, _, _, rfl, hoists, rfl⟩
  | declared _ hoists => exact ⟨_, _, _, rfl, hoists, rfl⟩
  | field | shared => simp at hsymbol

/-- A symbol lifted out of a record belongs to the group of a nested record. -/
theorem exists_group_of_mem_hoisted {members : List RecordMember} {all : List LoweredMember}
    (h : List.Forall₂ (Lowers mapper context) members all) {symbol : BindingSymbol}
    (hsymbol : symbol ∈ all.flatMap (·.hoisted)) :
    ∃ member ∈ members, ∃ lowered ∈ all, ∃ label nested group, member.nested? = some nested ∧
      Hoists mapper context label nested group ∧ lowered.hoisted = group.symbols ∧
      symbol ∈ group.symbols := by
  obtain ⟨lowered, hlowered, hin⟩ := List.mem_flatMap.mp hsymbol
  obtain ⟨member, hmember, hlowers⟩ := exists_left_of_mem h hlowered
  obtain ⟨label, nested, group, hnested, hhoists, heq⟩ := hlowers.exists_group_of_mem hin
  rw [heq] at hin
  exact ⟨member, hmember, lowered, hlowered, label, nested, group, hnested, hhoists, heq, hin⟩

/-- The type of a member refers to the member's own record, or it is mapped in a scope whose
nameless record is that of the member or of an earlier field. -/
theorem origin (h : Lowers mapper context member lowered) :
    (∃ name, lowered.binding.type = .named name ∧
      Provides mapper context member lowered name) ∨
    ∃ declaration source scope, member = .field declaration source ∧
      mapper.Maps declaration.type (.ofField context.isUnion) scope lowered.binding.type ∧
      ∀ name, scope.anonymousRecord = some name →
        Provides mapper context member lowered name ∨
          ∃ first, source = .shared first ∧ name = context.hoistedName first := by
  cases h with
  | anonymous hoists => exact .inl ⟨_, rfl, _, _, _, rfl, hoists, rfl, rfl⟩
  | field whole mapped =>
      exact .inr ⟨_, _, _, rfl, Mapper.maps_of_map mapped, nofun⟩
  | declared whole hoists mapped =>
      refine .inr ⟨_, _, _, rfl, Mapper.maps_of_map mapped, fun name hgiven => ?_⟩
      cases hgiven
      exact .inl ⟨_, _, _, rfl, hoists, rfl, rfl⟩
  | shared whole mapped =>
      refine .inr ⟨_, _, _, rfl, Mapper.maps_of_map mapped, fun name hgiven => ?_⟩
      cases hgiven
      exact .inr ⟨_, rfl, rfl⟩

end RecordMember.Lowers

namespace Mapper

variable {mapper : Mapper} {record : Declaration} {name : String} {group : SymbolGroup}

/-- In a lowered record the nameless record in the type of a member is lifted out for one of the
members. -/
theorem origin_of_mem {members : List LoweredMember}
    (h : List.Forall₂ (RecordMember.Lowers mapper (record.context name)) record.members members)
    {lowered : LoweredMember} (hlowered : lowered ∈ members) :
    (∃ used, lowered.binding.type = .named used ∧
      RecordMember.SomeProvides mapper (record.context name) record.members members used) ∨
    ∃ declaration source scope, .field declaration source ∈ record.members ∧
      mapper.Maps declaration.type (.ofField (record.context name).isUnion) scope
        lowered.binding.type ∧
      ∀ used, scope.anonymousRecord = some used →
        RecordMember.SomeProvides mapper (record.context name) record.members members used := by
  obtain ⟨member, hmember, hlowers⟩ := exists_left_of_mem h hlowered
  rcases hlowers.origin with
    ⟨used, htype, hown⟩ | ⟨declaration, source, scope, rfl, hmaps, hgiven⟩
  · exact .inl ⟨used, htype, member, hmember, lowered, hlowered, hown⟩
  · refine .inr ⟨declaration, source, scope, hmember, hmaps, fun used hused => ?_⟩
    rcases hgiven used hused with hown | ⟨first, rfl, rfl⟩
    · exact ⟨_, hmember, lowered, hlowered, hown⟩
    · rcases RecordMember.exists_declared_of_shared hmember with
        hnone | ⟨field, nested, rfl, hfield⟩
      · cases hnone
      · obtain ⟨other, hother, hdeclared⟩ := exists_right_of_mem h hfield
        refine ⟨_, hfield, other, hother, ?_⟩
        cases hdeclared with
        | declared whole hoists => exact ⟨_, _, _, rfl, hoists, rfl, rfl⟩

/-- In a lowered record a name in the type of a member is in the index, or one of the members
lifts out a record of that name. -/
theorem lists_or_provides {members : List LoweredMember}
    (h : List.Forall₂ (RecordMember.Lowers mapper (record.context name)) record.members members)
    {lowered : LoweredMember} (hlowered : lowered ∈ members) {used : String}
    (hused : lowered.binding.type.Exposes (.named used)) :
    mapper.index.Lists used ∨
      RecordMember.SomeProvides mapper (record.context name) record.members members used := by
  rcases origin_of_mem h hlowered with ⟨other, htype, hprovides⟩ | ⟨_, _, scope, -, hmaps, hgiven⟩
  · rw [htype] at hused
    cases hused
    exact .inr hprovides
  · exact (hmaps.lists_of_exposes hused).imp_right (hgiven used)

/-- Every symbol of a lowered record is a structure. -/
theorem record_of_mem_symbols (h : mapper.lowerRecordAs record name = .ok group)
    {symbol : BindingSymbol} (hsymbol : symbol ∈ group.symbols) :
    symbol.kind = .struct ∧ ∃ isUnion pack fields, symbol.body = .record isUnion pack fields := by
  induction record, name using Mapper.lowerRecordAs.induct generalizing group symbol with
  | case1 record name ih =>
      rcases List.mem_append.mp hsymbol with hhoisted | hmain
      · obtain ⟨members, hmembers, hclose⟩ := lowerRecordAs_eq_ok_iff.mp h
        obtain ⟨-, pack, -, rfl⟩ := RecordContext.close_eq_ok_iff.mp hclose
        obtain ⟨member, hmember, -, -, label, nested, inner, hnested, hhoists, -, hin⟩ :=
          RecordMember.Lowers.exists_group_of_mem_hoisted hmembers hhoisted
        exact ih member hmember nested hnested _ hhoists.1 hin
      · rw [List.mem_singleton.mp hmain]
        have hmain := main_of_lowerRecordAs h
        exact ⟨hmain.1, hmain.2.2.2⟩

/-- What the symbols of a lowered record refer to is in the index or lifted out beside them. -/
theorem lists_or_hoists_of_lowerRecordAs (h : mapper.lowerRecordAs record name = .ok group)
    {symbol : BindingSymbol} (hsymbol : symbol ∈ group.symbols) {used : String}
    (hused : symbol.Exposes (.named used)) :
    mapper.index.Lists used ∨
      ∃ hoisted ∈ group.hoisted, hoisted.emittedName = Identifier.escape used := by
  induction record, name using Mapper.lowerRecordAs.induct generalizing group symbol with
  | case1 record name ih =>
      obtain ⟨members, hmembers, hclose⟩ := lowerRecordAs_eq_ok_iff.mp h
      obtain ⟨-, pack, -, rfl⟩ := RecordContext.close_eq_ok_iff.mp hclose
      rcases List.mem_append.mp hsymbol with hhoisted | hmain
      · obtain ⟨member, hmember, lowered, hlowered, label, nested, inner, hnested, hhoists, heq,
          hin⟩ := RecordMember.Lowers.exists_group_of_mem_hoisted hmembers hhoisted
        rcases ih member hmember nested hnested _ hhoists.1 hin hused with
          hlists | ⟨other, hother, hname⟩
        · exact .inl hlists
        · refine .inr ⟨other, List.mem_flatMap.mpr ⟨lowered, hlowered, ?_⟩, hname⟩
          rw [heq]
          exact SymbolGroup.mem_symbols_of_mem_hoisted hother
      · cases List.mem_singleton.mp hmain
        obtain ⟨type, htype, hexposes⟩ := hused
        obtain ⟨binding, hbinding, rfl⟩ := List.mem_map.mp htype
        obtain ⟨lowered, hlowered, rfl⟩ := List.mem_map.mp hbinding
        rcases lists_or_provides hmembers hlowered hexposes with
          hlists | ⟨member, hmember, other, hother, label, nested, inner, -, hhoists, heq, rfl⟩
        · exact .inl hlists
        · refine .inr ⟨inner.main, List.mem_flatMap.mpr ⟨other, hother, ?_⟩,
            (main_of_lowerRecordAs hhoists.1).2.2.1⟩
          rw [heq]
          exact SymbolGroup.main_mem_symbols

end Mapper

end Interop
