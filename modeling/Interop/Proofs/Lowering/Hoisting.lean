import Interop.Proofs.Lowering.Names
import Interop.Proofs.Lowering.Places
import Mathlib.Data.List.Perm.Basic

/-!
# Records lifted out of records

A nameless record inside another one is lifted out and declared in front of it. Nothing is lost or
doubled on the way, as long as each nameless definition is used by a field before the next one
begins: the declarations that a record is lowered to are those of the nameless definitions reached
from it, under names that continue each other, and its own at the end
(`Mapper.lowerRecord_hoists`).

The order is that of the places at which the records are lifted out. A definition waits for the
field that declares it, so an anonymous member between the two is declared first. Without such
members the order is the one in which the definitions end in the source.
-/

namespace Interop

open scoped List

namespace Declaration

/-! ## Nameless definitions -/

mutual

/-- The nameless definitions reached from a record through nameless ones only, each after those
inside it, and the record itself at the end. -/
def reached : Declaration → List Declaration
  | ⟨kind, spelling, type, children, location, isDefinition, isAnonymousMember, linkage,
      enumValue, bitWidth, fieldOffsetBits, underlying⟩ =>
    reachedAll children ++ [⟨kind, spelling, type, children, location, isDefinition,
      isAnonymousMember, linkage, enumValue, bitWidth, fieldOffsetBits, underlying⟩]
termination_by structural declaration => declaration

/-- The nameless definitions reached from the children of a record. -/
def reachedAll : List Declaration → List Declaration
  | [] => []
  | child :: siblings => (if child.isNamelessPart then child.reached else []) ++ reachedAll siblings
termination_by structural declarations => declarations

end

theorem reachedAll_eq (siblings : List Declaration) :
    reachedAll siblings = (siblings.filter isNamelessPart).flatMap reached := by
  induction siblings with
  | nil => rfl
  | cons child siblings ih =>
      rw [reachedAll, ih]
      cases hpart : child.isNamelessPart with
      | true => rw [List.filter_cons_of_pos hpart, List.flatMap_cons, if_pos rfl]
      | false =>
          rw [List.filter_cons_of_neg (by simp [hpart])]
          rfl

theorem reached_eq (record : Declaration) :
    record.reached = (record.children.filter isNamelessPart).flatMap reached ++ [record] := by
  obtain ⟨_, _, _, children, _, _, _, _, _, _, _, _⟩ := record
  rw [reached, reachedAll_eq]

theorem mem_reached (record : Declaration) : record ∈ record.reached := by
  rw [reached_eq]
  exact List.mem_append_right _ List.mem_cons_self

theorem reached_child {record child : Declaration} (hchild : child ∈ record.children)
    (part : child.isNamelessPart = true) : child.reached ⊆ record.reached := by
  intro node hnode
  rw [record.reached_eq]
  exact List.mem_append_left _
    (List.mem_flatMap.mpr ⟨child, List.mem_filter.mpr ⟨hchild, part⟩, hnode⟩)

/-- Whether a field uses each nameless definition among some children before the next one. -/
def eachIsUsed : List Declaration → Bool
  | [] => true
  | child :: children =>
    (!child.isNamelessDefinition ||
      (children.takeWhile fun next => !next.isNamelessDefinition).any usesNamelessRecord) &&
    eachIsUsed children

/-- Whether no anonymous member stands between a nameless definition and the first field that uses
it. -/
def noneIsOvertaken : List Declaration → Bool
  | [] => true
  | child :: children =>
    (!child.isNamelessDefinition ||
      (children.takeWhile fun next => !next.usesNamelessRecord).all fun next =>
        !next.isAnonymousPart) &&
    noneIsOvertaken children

/-- Anonymous members have no name, and each other nameless definition of a record is used by a
field before the next one. -/
structure DeclaresParts (record : Declaration) : Prop where
  nameless : ∀ child ∈ record.children, child.isAnonymousPart = true → child.typeName? = none
  used : eachIsUsed record.children = true

instance (record : Declaration) : Decidable record.DeclaresParts :=
  decidable_of_iff
    ((∀ child ∈ record.children, child.isAnonymousPart = true → child.typeName? = none) ∧
      eachIsUsed record.children = true)
    ⟨fun h => ⟨h.1, h.2⟩, fun h => ⟨h.nameless, h.used⟩⟩

/-! ## What is lifted out, in order -/

/-- The records lifted out of some children of a record. -/
def liftedFrom (before children : List Declaration) : List Declaration :=
  ((placesFrom before children).filterMap Place.lift?).map (·.2)

theorem liftedFrom_cons {before children : List Declaration} {child : Declaration} :
    liftedFrom before (child :: children) =
      (if child.isAnonymousPart then [child]
        else if child.usesNamelessRecord then (waiting? before).toList else []) ++
      liftedFrom (child :: before) children := by
  rw [liftedFrom, placesFrom, List.filterMap_cons, Place.lift?]
  cases child.isAnonymousPart with
  | true => rfl
  | false =>
      cases child.usesNamelessRecord with
      | true => cases waiting? before <;> rfl
      | false => rfl

/-- Nothing waits where a definition begins, if what waits is used before the next definition. -/
theorem waiting?_eq_none_of_definition {before children : List Declaration} {child : Declaration}
    (definition : child.isNamelessDefinition = true)
    (waits : (waiting? before).isSome →
      ((child :: children).takeWhile fun next => !next.isNamelessDefinition).any
        usesNamelessRecord = true) :
    waiting? before = none := by
  by_contra hsome
  have hused := waits (Option.isSome_iff_ne_none.mpr hsome)
  simp [definition] at hused

/-- The nameless definitions among some children are lifted out of them, beside the one that waits
before them. The induction is on the children, and the first field that uses the definition that
waits lifts it out. -/
theorem liftedFrom_perm {before children : List Declaration} (used : eachIsUsed children = true)
    (waits : (waiting? before).isSome →
      (children.takeWhile fun next => !next.isNamelessDefinition).any usesNamelessRecord = true) :
    liftedFrom before children ~ (waiting? before).toList ++ children.filter isNamelessPart := by
  induction children generalizing before with
  | nil =>
      cases hwaiting : waiting? before with
      | none => exact .nil
      | some nested =>
          rw [hwaiting] at waits
          cases waits rfl
  | cons child children ih =>
      rw [eachIsUsed, Bool.and_eq_true] at used
      have hlater := @ih (child :: before) used.2
      rw [liftedFrom_cons, List.filter_cons, isNamelessPart]
      rw [waiting?_cons] at hlater
      rcases child.part_or_definition_or_use_or_other with
        ⟨hpart, hdefinition, huses⟩ | ⟨hdefinition, hpart, huses⟩ | ⟨huses, hpart, hdefinition⟩ |
          ⟨hpart, hdefinition, huses⟩
      · simp only [hpart, hdefinition, huses, Bool.or_false, if_true, Bool.false_eq_true, if_false]
          at hlater ⊢
        refine .trans (.cons child (hlater fun hsome => ?_)) List.perm_middle.symm
        simpa [hdefinition, huses] using waits hsome
      · simp only [hpart, hdefinition, huses, Bool.false_or, if_true, Bool.false_eq_true, if_false]
          at hlater ⊢
        rw [waiting?_eq_none_of_definition hdefinition waits]
        exact hlater fun _ => by simpa [hdefinition] using used.1
      · simp only [hpart, hdefinition, huses, Bool.or_false, if_true, Bool.false_eq_true, if_false]
          at hlater ⊢
        exact List.Perm.append_left _ (hlater (by simp))
      · simp only [hpart, hdefinition, huses, Bool.or_false, Bool.false_eq_true, if_false]
          at hlater ⊢
        exact hlater fun hsome => by simpa [hdefinition, huses] using waits hsome

/-- Without anonymous members in between, the nameless definitions are lifted out in their order. -/
theorem liftedFrom_eq {before children : List Declaration} (used : eachIsUsed children = true)
    (inOrder : noneIsOvertaken children = true)
    (waits : (waiting? before).isSome →
      (children.takeWhile fun next => !next.isNamelessDefinition).any usesNamelessRecord = true ∧
      ((children.takeWhile fun next => !next.usesNamelessRecord).all fun next =>
        !next.isAnonymousPart) = true) :
    liftedFrom before children = (waiting? before).toList ++ children.filter isNamelessPart := by
  induction children generalizing before with
  | nil =>
      cases hwaiting : waiting? before with
      | none => rfl
      | some nested =>
          rw [hwaiting] at waits
          cases (waits rfl).1
  | cons child children ih =>
      rw [eachIsUsed, Bool.and_eq_true] at used
      rw [noneIsOvertaken, Bool.and_eq_true] at inOrder
      have hlater := @ih (child :: before) used.2 inOrder.2
      rw [liftedFrom_cons, List.filter_cons, isNamelessPart]
      rw [waiting?_cons] at hlater
      rcases child.part_or_definition_or_use_or_other with
        ⟨hpart, hdefinition, huses⟩ | ⟨hdefinition, hpart, huses⟩ | ⟨huses, hpart, hdefinition⟩ |
          ⟨hpart, hdefinition, huses⟩
      · simp only [hpart, hdefinition, huses, Bool.or_false, if_true, Bool.false_eq_true, if_false]
          at hlater ⊢
        have hnone : waiting? before = none := by
          by_contra hsome
          have hunused := (waits (Option.isSome_iff_ne_none.mpr hsome)).2
          simp [huses, hpart] at hunused
        rw [hnone] at hlater ⊢
        rw [hlater (by simp)]
        rfl
      · simp only [hpart, hdefinition, huses, Bool.false_or, if_true, Bool.false_eq_true, if_false]
          at hlater ⊢
        rw [waiting?_eq_none_of_definition hdefinition fun hsome => (waits hsome).1]
        refine hlater fun _ => ⟨?_, ?_⟩
        · simpa [hdefinition] using used.1
        · simpa [hdefinition] using inOrder.1
      · simp only [hpart, hdefinition, huses, Bool.or_false, if_true, Bool.false_eq_true, if_false]
          at hlater ⊢
        rw [hlater (by simp)]
        rfl
      · simp only [hpart, hdefinition, huses, Bool.or_false, Bool.false_eq_true, if_false]
          at hlater ⊢
        refine hlater fun hsome => ?_
        simpa [hdefinition, huses, hpart] using waits hsome

variable {record : Declaration}

/-- The nameless definitions of a record are lifted out of it, each once. -/
theorem lifts_perm (h : record.DeclaresParts) :
    record.lifts.map (·.2) ~ record.children.filter isNamelessPart :=
  liftedFrom_perm h.used nofun

theorem lifts_map_eq (h : record.DeclaresParts) (inOrder : noneIsOvertaken record.children = true) :
    record.lifts.map (·.2) = record.children.filter isNamelessPart :=
  liftedFrom_eq h.used inOrder nofun

theorem sizeOf_lift_lt {lift : String × Declaration} (h : lift ∈ record.lifts) :
    sizeOf lift.2 < sizeOf record := by
  obtain ⟨member, hmember, -, hnested⟩ := exists_member_of_mem_lifts h
  exact sizeOf_nested_lt hmember hnested

/-- The records that a record called `name` is lowered to, with their names: those lifted out of it,
each with those lifted out of that one before it, and the record itself at the end. -/
def liftedAs (record : Declaration) (name : String) : List (String × Declaration) :=
  (record.lifts.attach.flatMap fun lift => lift.1.2.liftedAs (name ++ "_" ++ lift.1.1)) ++
    [(name, record)]
termination_by sizeOf record
decreasing_by exact sizeOf_lift_lt lift.2

theorem liftedAs_eq (record : Declaration) (name : String) :
    record.liftedAs name =
      (record.lifts.flatMap fun lift => lift.2.liftedAs (name ++ "_" ++ lift.1)) ++
        [(name, record)] := by
  rw [liftedAs]
  conv_rhs => rw [← List.attach_map_subtype_val record.lifts, List.flatMap_map]

variable {name : String}

theorem reached_lift {lift : String × Declaration} (hlift : lift ∈ record.lifts) :
    lift.2.reached ⊆ record.reached := by
  obtain ⟨hchild, hpart⟩ := List.mem_filter.mp (nameless_of_mem_lifts hlift)
  exact reached_child hchild hpart

/-- The records that a record is lowered to are those reached from it, each once. -/
theorem liftedAs_perm (h : ∀ node ∈ record.reached, node.DeclaresParts) :
    (record.liftedAs name).map (·.2) ~ record.reached := by
  induction record, name using liftedAs.induct with
  | case1 record name ih =>
      have hrecord := h record record.mem_reached
      rw [liftedAs_eq, reached_eq, List.map_append, List.map_flatMap]
      refine List.Perm.append_right _ ?_
      calc record.lifts.flatMap (fun lift => (lift.2.liftedAs (name ++ "_" ++ lift.1)).map (·.2))
        _ ~ record.lifts.flatMap (fun lift => lift.2.reached) := by
            refine List.Perm.flatMap_left _ fun lift hlift => ih ⟨lift, hlift⟩ fun node hnode => ?_
            exact h node (reached_lift hlift hnode)
        _ = (record.lifts.map (·.2)).flatMap reached := by rw [List.flatMap_map]
        _ ~ (record.children.filter isNamelessPart).flatMap reached :=
            (lifts_perm hrecord).flatMap_right _

/-- If anonymous members stand nowhere between a definition and its field, the order is the one in
which the definitions end. -/
theorem liftedAs_map_eq (h : ∀ node ∈ record.reached, node.DeclaresParts)
    (inOrder : ∀ node ∈ record.reached, noneIsOvertaken node.children = true) :
    (record.liftedAs name).map (·.2) = record.reached := by
  induction record, name using liftedAs.induct with
  | case1 record name ih =>
      have hrecord := h record record.mem_reached
      rw [liftedAs_eq, reached_eq, List.map_append, List.map_flatMap]
      congr 1
      calc record.lifts.flatMap (fun lift => (lift.2.liftedAs (name ++ "_" ++ lift.1)).map (·.2))
        _ = record.lifts.flatMap (fun lift => lift.2.reached) := by
            refine List.flatMap_congr fun lift hlift => ih ⟨lift, hlift⟩ ?_ ?_
            · exact fun node hnode => h node (reached_lift hlift hnode)
            · exact fun node hnode => inOrder node (reached_lift hlift hnode)
        _ = (record.lifts.map (·.2)).flatMap reached := by rw [List.flatMap_map]
        _ = (record.children.filter isNamelessPart).flatMap reached := by
            rw [lifts_map_eq hrecord (inOrder record record.mem_reached)]

/-- A record that is lifted out is called after the one that it is lifted out of. -/
theorem continues_of_mem_lifts {lift entry : String × Declaration}
    (hentry : entry ∈ lift.2.liftedAs (name ++ "_" ++ lift.1)) :
    Identifier.Continues entry.1 name := by
  obtain ⟨label, nested⟩ := lift
  have hbelow : ∀ (nested : Declaration) (start : String), ∀ entry ∈ nested.liftedAs start,
      entry.1 = start ∨ Identifier.Continues entry.1 start := by
    intro nested start
    induction nested, start using liftedAs.induct with
    | case1 nested start ih =>
        intro entry hentry
        rw [liftedAs_eq] at hentry
        rcases List.mem_append.mp hentry with hinner | hself
        · obtain ⟨lift, hlift, hin⟩ := List.mem_flatMap.mp hinner
          have hlabel : Identifier.Continues (start ++ "_" ++ lift.1) start := ⟨lift.1, rfl⟩
          rcases ih ⟨lift, hlift⟩ entry hin with heq | hcontinues
          · exact .inr (heq ▸ hlabel)
          · exact .inr (hcontinues.trans hlabel)
        · exact .inl (List.mem_singleton.mp hself ▸ rfl)
  have hlabel : Identifier.Continues (name ++ "_" ++ label) name := ⟨label, rfl⟩
  rcases hbelow nested _ entry hentry with heq | hcontinues
  · exact heq ▸ hlabel
  · exact hcontinues.trans hlabel

end Declaration

/-! ## What the records are lowered to -/

/-- A field of the structure for a record called `name` stands for the member at a place. A field
of the header whose type is a nameless record has the name under which the closest definition before
it is lifted out. -/
inductive Place.Becomes (mapper : Mapper) (record : Declaration) (name : String) (place : Place) :
    FieldBinding → Prop
  | anonymous (part : place.child.isAnonymousPart = true) :
      Becomes mapper record name place ⟨"Anonymous" ++ toString place.number, "",
        .named (name ++ "_" ++ ("Anonymous" ++ toString place.number))⟩
  | field {type : ManagedType} {scope : MapScope} (isField : place.child.kind = .field)
      (mapped : mapper.map place.child.type (.ofField (record.context name).isUnion) scope =
        .ok type)
      (stored : ∀ isUnion, place.child.type.kind = .record none isUnion →
        ∃ nested, place.definition? = some nested ∧
          (place.declarer.spelling, nested) ∈ record.lifts ∧
          type = .named (name ++ "_" ++ place.declarer.spelling)) :
      Becomes mapper record name place
        ⟨(record.context name).fieldName place.child.spelling, place.child.spelling, type⟩

/-- A symbol stands for a record under a name: its fields are the members of the record, one by
one. -/
structure BindingSymbol.StandsFor (mapper : Mapper) (symbol : BindingSymbol)
    (entry : String × Declaration) : Prop where
  kind : symbol.kind = .struct
  nativeName : symbol.nativeName = entry.1
  emittedName : symbol.emittedName = Identifier.escape entry.1
  fields : ∃ pack fields, symbol.body = .record (entry.2.kind = .union) pack fields ∧
    List.Forall₂ (Place.Becomes mapper entry.2 entry.1) entry.2.memberPlaces fields

/-- The native names of the fields of a structure. -/
def BindingSymbol.nativeFields (symbol : BindingSymbol) : List String :=
  match symbol.body with
  | .record _ _ fields => fields.map (·.nativeName)
  | _ => []

/-- The native name of a member; an anonymous one has none. -/
def Place.nativeName (place : Place) : String :=
  if place.child.isAnonymousPart then "" else place.child.spelling

theorem BindingSymbol.StandsFor.nativeFields_eq {mapper : Mapper} {symbol : BindingSymbol}
    {entry : String × Declaration} (h : symbol.StandsFor mapper entry) :
    symbol.nativeFields = entry.2.memberPlaces.map Place.nativeName := by
  obtain ⟨pack, fields, hbody, hfields⟩ := h.fields
  rw [nativeFields, hbody]
  refine (map_eq_map_of_forall₂ hfields fun place binding hbecomes => ?_).symm
  cases hbecomes with
  | anonymous part => rw [Place.nativeName, if_pos part]
  | field isField => simp [Place.nativeName, Declaration.isAnonymousPart_of_kind isField]

namespace Mapper

variable {mapper : Mapper} {record : Declaration} {name : String} {group : SymbolGroup}

theorem usesNamelessRecord_of_stored {type : NativeType} {isUnion : Bool}
    (stored : type.kind = .record none isUnion) : type.usesNamelessRecord = true := by
  obtain ⟨kind, layout, isConst⟩ := type
  cases stored
  rfl

theorem map_of_stored {type : NativeType} {isUnion : Bool} {position : Position}
    {scope : MapScope} {given : String} {mapped : ManagedType}
    (stored : type.kind = .record none isUnion) (names : scope.anonymousRecord = some given)
    (h : mapper.map type position scope = .ok mapped) : mapped = .named given := by
  obtain ⟨kind, layout, isConst⟩ := type
  cases stored
  rw [map, names] at h
  cases h
  rfl

/-- What a field that uses a nameless record is lowered to. -/
theorem becomes_of_uses {place : Place} {lowered : LoweredMember} (hplace : place ∈ record.places)
    (isField : place.child.kind = .field) (uses : place.child.type.usesNamelessRecord = true)
    (h : RecordMember.Lowers mapper (record.context name) (.field place.child place.source)
      lowered) :
    place.Becomes mapper record name lowered.binding := by
  cases hdefinition : place.definition? with
  | none =>
      rw [Place.source, hdefinition] at h
      cases h
  | some nested =>
      have hlift : (place.declarer.spelling, nested) ∈ record.lifts :=
        Declaration.mem_lifts_of_definition? hplace
          (by simp [Declaration.usesNamelessRecord, isField, uses]) hdefinition
      -- the field has the name of its own record, or that of the field which shares it
      cases hdeclares : place.declares with
      | true =>
          have hself : place.declarer = place.child := by
            rw [Place.declarer, List.isEmpty_iff.mp hdeclares]
            rfl
          simp only [Place.source, hdefinition, hdeclares, if_true] at h
          cases h with
          | declared whole hoists mapped =>
              refine .field isField mapped fun isUnion hstored => ⟨nested, hdefinition, hlift, ?_⟩
              rw [hself]
              exact map_of_stored hstored rfl mapped
      | false =>
          simp only [Place.source, hdefinition, hdeclares, Bool.false_eq_true, if_false] at h
          cases h with
          | shared whole mapped =>
              refine .field isField mapped fun isUnion hstored => ⟨nested, hdefinition, hlift, ?_⟩
              exact map_of_stored hstored rfl mapped

/-- What the member at a place is lowered to. -/
theorem becomes_of_lowers {place : Place} {lowered : LoweredMember}
    (hplace : place ∈ record.memberPlaces)
    (h : RecordMember.Lowers mapper (record.context name) place.member lowered) :
    place.Becomes mapper record name lowered.binding := by
  obtain ⟨hplaces, hmember⟩ := List.mem_filter.mp hplace
  cases hpart : place.child.isAnonymousPart with
  | true =>
      rw [Place.member, if_pos hpart] at h
      cases h
      exact .anonymous hpart
  | false =>
      rw [Place.isMember, Declaration.isMember_eq, hpart, Bool.or_false] at hmember
      have hfield : place.child.kind = .field := of_decide_eq_true hmember
      rw [Place.member, if_neg (by simp [hpart])] at h
      cases huses : place.child.type.usesNamelessRecord with
      | true =>
          rw [if_pos huses] at h
          exact becomes_of_uses hplaces hfield huses h
      | false =>
          rw [if_neg (by simp [huses])] at h
          cases h with
          | field whole mapped =>
              refine .field hfield mapped fun isUnion hstored => ?_
              cases huses.symm.trans (usesNamelessRecord_of_stored hstored)

/-- The structure for a record stands for it, given that its name is not another one's. -/
theorem standsFor_main (h : mapper.lowerRecordAs record name = .ok group)
    (named : record.typeName?.getD name = name) :
    group.main.StandsFor mapper (name, record) := by
  obtain ⟨hkind, hnative, hemitted, -⟩ := main_of_lowerRecordAs h
  obtain ⟨members, hmembers, hclose⟩ := lowerRecordAs_eq_ok_iff.mp h
  obtain ⟨-, pack, -, rfl⟩ := RecordContext.close_eq_ok_iff.mp hclose
  refine ⟨hkind, hnative.trans named, hemitted, pack, members.map (·.binding), rfl, ?_⟩
  rw [record.members_eq, List.forall₂_map_left_iff] at hmembers
  rw [List.forall₂_map_right_iff]
  have hplaced : ∀ place ∈ record.memberPlaces, place ∈ record.memberPlaces := fun _ hin => hin
  refine ((List.forall₂_and_left _ _).mpr ⟨hplaced, hmembers⟩).imp ?_
  rintro place lowered ⟨hin, hlowers⟩
  exact becomes_of_lowers hin hlowers

theorem typeName?_of_mem_lifts (h : record.DeclaresParts) {lift : String × Declaration}
    (hlift : lift ∈ record.lifts) : lift.2.typeName? = none := by
  obtain ⟨hchild, hpart⟩ := List.mem_filter.mp (Declaration.nameless_of_mem_lifts hlift)
  rcases (Bool.or_eq_true _ _).mp hpart with hanonymous | hdefinition
  · exact h.nameless lift.2 hchild hanonymous
  · exact Option.isNone_iff_eq_none.mp ((Bool.and_eq_true _ _).mp hdefinition).2

/-- The records that a member lifts out are those of its nested record. -/
theorem standsFor_hoisted {member : RecordMember} {lowered : LoweredMember}
    {context : RecordContext} (h : RecordMember.Lowers mapper context member lowered)
    (below : ∀ nested, member.nested? = some nested → ∀ group,
      mapper.lowerRecordAs nested (context.hoistedName member.label) = .ok group →
      List.Forall₂ (BindingSymbol.StandsFor mapper) group.symbols
        (nested.liftedAs (context.hoistedName member.label))) :
    List.Forall₂ (BindingSymbol.StandsFor mapper) lowered.hoisted
      (member.lift?.toList.flatMap fun lift => lift.2.liftedAs (context.hoistedName lift.1)) := by
  cases h with
  | anonymous hoists | declared _ hoists =>
      simpa [RecordMember.lift?, RecordMember.nested?] using below _ rfl _ hoists.1
  | field | shared => exact .nil

/-- The records that all members lift out. -/
theorem standsFor_flatMap {members : List RecordMember} {all : List LoweredMember}
    {context : RecordContext} (h : List.Forall₂ (RecordMember.Lowers mapper context) members all)
    (below : ∀ member ∈ members, ∀ nested, member.nested? = some nested → ∀ group,
      mapper.lowerRecordAs nested (context.hoistedName member.label) = .ok group →
      List.Forall₂ (BindingSymbol.StandsFor mapper) group.symbols
        (nested.liftedAs (context.hoistedName member.label))) :
    List.Forall₂ (BindingSymbol.StandsFor mapper) (all.flatMap (·.hoisted))
      ((members.filterMap RecordMember.lift?).flatMap fun lift =>
        lift.2.liftedAs (context.hoistedName lift.1)) := by
  rw [List.filterMap_eq_flatMap_toList, List.flatMap_assoc]
  induction h with
  | nil => exact .nil
  | cons hmember _ ih =>
      rw [List.flatMap_cons, List.flatMap_cons]
      exact List.rel_append (standsFor_hoisted hmember (below _ List.mem_cons_self))
        (ih fun other hother => below other (List.mem_cons_of_mem _ hother))

/-- The symbols of a record stand for the records that it is lowered to. The induction is on the
nesting of records. -/
theorem standsFor_liftedAs (h : mapper.lowerRecordAs record name = .ok group)
    (declares : ∀ node ∈ record.reached, node.DeclaresParts)
    (named : record.typeName?.getD name = name) :
    List.Forall₂ (BindingSymbol.StandsFor mapper) group.symbols (record.liftedAs name) := by
  induction record, name using Mapper.lowerRecordAs.induct generalizing group with
  | case1 record name ih =>
      obtain ⟨members, hmembers, hclose⟩ := lowerRecordAs_eq_ok_iff.mp h
      have hhoisted : group.hoisted = members.flatMap (·.hoisted) := by
        obtain ⟨-, pack, -, rfl⟩ := RecordContext.close_eq_ok_iff.mp hclose
        rfl
      have hrecord := declares record record.mem_reached
      rw [Declaration.liftedAs_eq, SymbolGroup.symbols, hhoisted, record.lifts_eq]
      refine List.rel_append (standsFor_flatMap hmembers ?_)
        (.cons (standsFor_main h named) .nil)
      intro member hmember nested hnested inner hinner
      have hlift := Declaration.mem_lifts_of_mem_members hmember hnested
      refine ih member hmember nested hnested _ hinner ?_ ?_
      · exact fun node hnode => declares node (Declaration.reached_lift hlift hnode)
      · rw [typeName?_of_mem_lifts hrecord hlift]
        rfl

/-- A record that is lifted out is emitted under its own name. -/
theorem emittedName_eq_nativeName (h : List.Forall₂ (BindingSymbol.StandsFor mapper) group.symbols
    (record.liftedAs name)) {symbol : BindingSymbol} (hsymbol : symbol ∈ group.hoisted) :
    symbol.emittedName = symbol.nativeName := by
  have hlength := h.length_eq
  rw [Declaration.liftedAs_eq, SymbolGroup.symbols, List.length_append, List.length_append]
    at hlength
  have hbefore := List.forall₂_take group.hoisted.length h
  rw [Declaration.liftedAs_eq, SymbolGroup.symbols, List.take_left,
    List.take_left' (Nat.add_right_cancel hlength).symm] at hbefore
  obtain ⟨entry, hentry, hstands⟩ := exists_right_of_mem hbefore hsymbol
  obtain ⟨lift, -, hin⟩ := List.mem_flatMap.mp hentry
  rw [hstands.emittedName, hstands.nativeName,
    (Declaration.continues_of_mem_lifts hin).escape_eq]

/-- Lowering a record yields one symbol for each nameless definition reached from it through
nameless ones and one for itself, if each definition is used by a field before the next one. Each
symbol is called after the record that holds its own and the member it is lifted out for, and its
fields are the members of its record, in their order. The symbols come in the order in which
anonymous members stand and fields declare the other definitions, those of a record before its own;
where no anonymous member stands between a definition and its first field, this is the order in
which the definitions end. -/
theorem lowerRecord_hoists (h : mapper.lowerRecord record = .ok group)
    (declares : ∀ node ∈ record.reached, node.DeclaresParts) :
    ∃ name, record.typeName? = some name ∧
      List.Forall₂ (BindingSymbol.StandsFor mapper) group.symbols (record.liftedAs name) ∧
      (∀ symbol ∈ group.hoisted, symbol.emittedName = symbol.nativeName) ∧
      (record.liftedAs name).map (·.2) ~ record.reached ∧
      ((∀ node ∈ record.reached, Declaration.noneIsOvertaken node.children = true) →
        (record.liftedAs name).map (·.2) = record.reached) := by
  cases hname : record.typeName? with
  | none =>
      rw [lowerRecord, hname] at h
      cases h
  | some name =>
      rw [lowerRecord, hname] at h
      have hstands := standsFor_liftedAs h declares (by rw [hname]; rfl)
      exact ⟨name, rfl, hstands, fun _ => emittedName_eq_nativeName hstands,
        Declaration.liftedAs_perm declares, Declaration.liftedAs_map_eq declares⟩

/-- A structure with a nameless structure in it, which has one field and shares its record, and an
anonymous one. -/
def nest : Declaration :=
  let part (members : List Declaration) : Declaration :=
    { Declaration.ofStruct "" members with isAnonymousMember := true }
  .ofStruct "S" [.ofStruct "" [.ofField "x" .int, part [.ofField "z" .int]],
    .ofField "a" (.anonymousRecord false), .ofField "b" (.pointer (.anonymousRecord false)),
    part [.ofField "y" .int]]

theorem lowerRecord_hoists_nest :
    (∀ node ∈ nest.reached, node.DeclaresParts) ∧
    ∃ group, (Mapper.mk ∅ true).lowerRecord nest = .ok group ∧
      group.symbols.map (·.nativeName) = ["S_a_Anonymous0", "S_a", "S_Anonymous0", "S"] ∧
      group.symbols.map (·.nativeFields) = [["z"], ["x", ""], ["y"], ["a", "b", ""]] := by
  have hdeclares : ∀ node ∈ nest.reached, node.DeclaresParts := by decide +kernel
  obtain ⟨group, hgroup⟩ : ∃ group, (Mapper.mk ∅ true).lowerRecord nest = .ok group :=
    Outcome.exists_eq_ok_of_isOk (by decide +kernel)
  obtain ⟨name, hname, hstands, -, -, -⟩ := lowerRecord_hoists hgroup hdeclares
  cases hname
  have hnames : group.symbols.map (·.nativeName) = (nest.liftedAs "S").map (·.1) :=
    map_eq_map_of_forall₂ hstands fun _ _ hsymbol => hsymbol.nativeName
  have hfields : group.symbols.map (·.nativeFields) =
      (nest.liftedAs "S").map fun entry => entry.2.memberPlaces.map Place.nativeName :=
    map_eq_map_of_forall₂ hstands fun _ _ hsymbol => hsymbol.nativeFields_eq
  refine ⟨hdeclares, group, hgroup, ?_, ?_⟩
  · rw [hnames]
    decide +kernel
  · rw [hfields]
    decide +kernel

/-- A structure in which an anonymous member stands between a nameless definition and its field. -/
def overtaken : Declaration :=
  .ofStruct "S" [.ofStruct "" [.ofField "x" .int],
    { Declaration.ofStruct "" [.ofField "y" .int] with isAnonymousMember := true },
    .ofField "a" (.anonymousRecord false)]

/-- An anonymous member overtakes a definition that waits for its field. -/
theorem not_reached_overtaken :
    ¬ ∀ (mapper : Mapper) (record : Declaration) (group : SymbolGroup),
      mapper.lowerRecord record = .ok group →
      (∀ node ∈ record.reached, node.DeclaresParts) →
      ∃ entries : List (String × Declaration), entries.map (·.2) = record.reached ∧
        List.Forall₂ (BindingSymbol.StandsFor mapper) group.symbols entries := by
  intro h
  obtain ⟨group, hgroup⟩ : ∃ group, (Mapper.mk ∅ true).lowerRecord overtaken = .ok group :=
    Outcome.exists_eq_ok_of_isOk (by decide +kernel)
  have hdeclares : ∀ node ∈ overtaken.reached, node.DeclaresParts := by decide +kernel
  have hfields : ∀ entries : List (String × Declaration),
      List.Forall₂ (BindingSymbol.StandsFor (Mapper.mk ∅ true)) group.symbols entries →
      group.symbols.map (·.nativeFields) =
        (entries.map (·.2)).map fun record => record.memberPlaces.map Place.nativeName := by
    intro entries hstands
    rw [List.map_map]
    exact map_eq_map_of_forall₂ hstands fun _ _ hsymbol => hsymbol.nativeFields_eq
  obtain ⟨entries, hreached, hstands⟩ := h _ _ group hgroup hdeclares
  have hsource := hfields entries hstands
  have hplaces := hfields (overtaken.liftedAs "S") (standsFor_liftedAs hgroup hdeclares rfl)
  rw [hreached] at hsource
  exact absurd (hsource.symm.trans hplaces) (by decide +kernel)

end Mapper

end Interop
