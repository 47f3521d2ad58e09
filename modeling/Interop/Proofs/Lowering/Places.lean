import Interop.Proofs.Lowering.Placement

/-!
# Members by their places

What a child of a record becomes as a member depends on the children before it. An anonymous member
is numbered by how many there were before, and a field that uses a nameless record uses the closest
definition before it, which the first field after the definition declares. The lowering goes through
the children once and remembers no more than a number, a definition that no field has taken yet and
the field that took one last. Here a `Place` sees all children before it, and
`Declaration.members_eq` says that the lowering finds the same members.
-/

namespace Interop

namespace Declaration

/-- Whether a child of a record is an anonymous member. -/
def isAnonymousPart (child : Declaration) : Bool :=
  child.kind.isRecord && child.isDefinition && child.isAnonymousMember

/-- Whether a child of a record defines a nameless record for the fields after it. -/
def isNamelessDefinition (child : Declaration) : Bool :=
  child.kind.isRecord && child.isDefinition && !child.isAnonymousMember && child.typeName?.isNone

/-- Whether a child of a record is lifted out of it: an anonymous member, or a nameless definition
for the fields after it. -/
def isNamelessPart (child : Declaration) : Bool :=
  child.isAnonymousPart || child.isNamelessDefinition

/-- Whether a child of a record is a field whose type uses a nameless record. -/
def usesNamelessRecord (child : Declaration) : Bool :=
  child.kind = .field && child.type.usesNamelessRecord

variable {child : Declaration} {before : List Declaration}

/-- The definition closest to a place. The children before a place are listed from there on, the
nearest first. -/
def closestDefinition? (before : List Declaration) : Option Declaration :=
  before.find? isNamelessDefinition

/-- The fields that use a nameless record since the closest definition. -/
def usesSince (before : List Declaration) : List Declaration :=
  (before.takeWhile fun child => !child.isNamelessDefinition).filter usesNamelessRecord

/-- The definition that no field before a place declares, if it is the closest one. -/
def waiting? (before : List Declaration) : Option Declaration :=
  if (usesSince before).isEmpty then closestDefinition? before else none

/-! A child is at most one of the three: an anonymous member, a definition for the fields after it
or a field that uses one. -/

theorem kind_ne_field_of_isRecord (h : child.kind.isRecord = true) : child.kind ≠ .field := by
  intro hfield
  rw [hfield] at h
  cases h

theorem usesNamelessRecord_of_isRecord (h : child.kind.isRecord = true) :
    child.usesNamelessRecord = false := by
  simp [usesNamelessRecord, kind_ne_field_of_isRecord h]

theorem isNamelessDefinition_of_kind (h : child.kind = .field) :
    child.isNamelessDefinition = false := by
  simp [isNamelessDefinition, h, DeclarationKind.isRecord]

theorem isAnonymousPart_of_kind (h : child.kind = .field) : child.isAnonymousPart = false := by
  simp [isAnonymousPart, h, DeclarationKind.isRecord]

theorem kind_of_usesNamelessRecord (h : child.usesNamelessRecord = true) : child.kind = .field :=
  of_decide_eq_true ((Bool.and_eq_true _ _).mp h).1

theorem isAnonymousPart_of_isNamelessDefinition (h : child.isNamelessDefinition = true) :
    child.isAnonymousPart = false := by
  simp only [isNamelessDefinition, Bool.and_eq_true, Bool.not_eq_true'] at h
  simp [isAnonymousPart, h.1.2]

theorem usesNamelessRecord_of_isNamelessDefinition (h : child.isNamelessDefinition = true) :
    child.usesNamelessRecord = false := by
  simp only [isNamelessDefinition, Bool.and_eq_true] at h
  exact usesNamelessRecord_of_isRecord h.1.1.1

theorem usesNamelessRecord_of_isAnonymousPart (h : child.isAnonymousPart = true) :
    child.usesNamelessRecord = false := by
  simp only [isAnonymousPart, Bool.and_eq_true] at h
  exact usesNamelessRecord_of_isRecord h.1.1

theorem isNamelessDefinition_of_isAnonymousPart (h : child.isAnonymousPart = true) :
    child.isNamelessDefinition = false := by
  simp only [isAnonymousPart, Bool.and_eq_true] at h
  simp [isNamelessDefinition, h.2]

/-- The four kinds of children. -/
theorem part_or_definition_or_use_or_other (child : Declaration) :
    (child.isAnonymousPart = true ∧ child.isNamelessDefinition = false ∧
        child.usesNamelessRecord = false) ∨
      (child.isNamelessDefinition = true ∧ child.isAnonymousPart = false ∧
        child.usesNamelessRecord = false) ∨
      (child.usesNamelessRecord = true ∧ child.isAnonymousPart = false ∧
        child.isNamelessDefinition = false) ∨
      (child.isAnonymousPart = false ∧ child.isNamelessDefinition = false ∧
        child.usesNamelessRecord = false) := by
  cases hpart : child.isAnonymousPart with
  | true =>
      exact .inl ⟨rfl, isNamelessDefinition_of_isAnonymousPart hpart,
        usesNamelessRecord_of_isAnonymousPart hpart⟩
  | false =>
      cases hdefinition : child.isNamelessDefinition with
      | true => exact .inr (.inl ⟨rfl, rfl, usesNamelessRecord_of_isNamelessDefinition hdefinition⟩)
      | false => cases child.usesNamelessRecord <;> simp

theorem isMember_eq :
    child.isMember = (decide (child.kind = .field) || child.isAnonymousPart) := rfl

theorem isRecord_of_isNamelessPart (h : child.isNamelessPart = true) :
    child.kind.isRecord = true := by
  simp only [isNamelessPart, isAnonymousPart, isNamelessDefinition, Bool.or_eq_true,
    Bool.and_eq_true] at h
  rcases h with hpart | hdefinition
  · exact hpart.1.1
  · exact hdefinition.1.1.1

theorem closestDefinition?_cons :
    closestDefinition? (child :: before) =
      if child.isNamelessDefinition then some child else closestDefinition? before := by
  rw [closestDefinition?, List.find?_cons]
  cases child.isNamelessDefinition <;> rfl

theorem usesSince_cons_of_definition (h : child.isNamelessDefinition = true) :
    usesSince (child :: before) = [] := by
  simp [usesSince, h]

theorem usesSince_cons (h : child.isNamelessDefinition = false) :
    usesSince (child :: before) =
      if child.usesNamelessRecord then child :: usesSince before else usesSince before := by
  simp [usesSince, h, List.filter_cons]

theorem waiting?_cons :
    waiting? (child :: before) =
      if child.isNamelessDefinition then some child
      else if child.usesNamelessRecord then none else waiting? before := by
  rw [waiting?, closestDefinition?_cons]
  cases hdefinition : child.isNamelessDefinition with
  | true =>
      rw [usesSince_cons_of_definition hdefinition]
      rfl
  | false =>
      rw [usesSince_cons hdefinition]
      cases child.usesNamelessRecord <;> rfl

end Declaration

/-! ## Places -/

/-- A child of a record with the children before it, the nearest first. -/
structure Place where
  before : List Declaration
  child : Declaration

namespace Place

variable (place : Place)

/-- Whether the child is a member. -/
def isMember : Bool := place.child.isMember

/-- The number of anonymous members before a place. -/
def number : Nat := place.before.countP Declaration.isAnonymousPart

/-- The definition closest to a place. -/
def definition? : Option Declaration := Declaration.closestDefinition? place.before

/-- The field that declares the record which the child uses: the first one that uses it. -/
def declarer : Declaration := (Declaration.usesSince place.before).getLast?.getD place.child

/-- Whether no field before a place declares the definition closest to it. -/
def declares : Bool := (Declaration.usesSince place.before).isEmpty

/-- What is lifted out at a place, with the name of the member it is lifted out for: an anonymous
member, and a nameless definition where a field declares it. -/
def lift? : Option (String × Declaration) :=
  if place.child.isAnonymousPart then
    some ("Anonymous" ++ toString place.number, place.child)
  else if place.child.usesNamelessRecord then
    (Declaration.waiting? place.before).map (place.child.spelling, ·)
  else none

/-- Where the record comes from that the field at a place uses. -/
def source : FieldRecord :=
  match place.definition? with
  | none => .missing
  | some nested => if place.declares then .declared nested else .shared place.declarer.spelling

/-- The member at a place. -/
def member : RecordMember :=
  if place.child.isAnonymousPart then .anonymous place.number place.child
  else .field place.child (if place.child.type.usesNamelessRecord then place.source else .none)

end Place

/-- The children of a record after some of them, each with all children before it. -/
def Declaration.placesFrom (before : List Declaration) : List Declaration → List Place
  | [] => []
  | child :: children => ⟨before, child⟩ :: placesFrom (child :: before) children

namespace Declaration

variable (record : Declaration)

/-- The children of a record, each with the children before it. -/
def places : List Place := placesFrom [] record.children

/-- The places of the members. -/
def memberPlaces : List Place := record.places.filter Place.isMember

/-- What is lifted out of a record, place by place, with the names of the members. -/
def lifts : List (String × Declaration) := record.places.filterMap Place.lift?

end Declaration

/-! ## What the lowering remembers -/

namespace RecordMember

open Declaration

/-- The number, the pending definition and the last field of the lowering are those of the children
before a place. The last field is that of an earlier definition while another one is pending, so
nothing is said of it then. -/
structure Tracks (before : List Declaration) (number : Nat) (pending : Option Declaration)
    (last : Option String) : Prop where
  counts : number = before.countP isAnonymousPart
  waits : pending = waiting? before
  remembers : pending = none → last =
    (closestDefinition? before).bind fun _ => (usesSince before).getLast?.map (·.spelling)

theorem tracks_nil : Tracks [] 0 none none := ⟨rfl, rfl, fun _ => rfl⟩

namespace Tracks

variable {before children : List Declaration} {child nested : Declaration} {number : Nat}
  {pending : Option Declaration} {last : Option String}

/-- A definition waits for the first field that uses it. -/
theorem usesSince_eq_nil (h : Tracks before number (some nested) last) :
    closestDefinition? before = some nested ∧ usesSince before = [] := by
  have hwaits := h.waits
  rw [waiting?] at hwaits
  split at hwaits
  · exact ⟨hwaits.symm, List.isEmpty_iff.mp ‹_›⟩
  · cases hwaits

/-- A definition that does not wait was taken by the field that is remembered. -/
theorem exists_taken (h : Tracks before number none last)
    (closest : closestDefinition? before = some nested) :
    ∃ first, (usesSince before).getLast? = some first ∧ last = some first.spelling := by
  have hwaits := h.waits
  rw [waiting?, closest] at hwaits
  split at hwaits
  · cases hwaits
  · rename_i hsome
    have hne : usesSince before ≠ [] := mt List.isEmpty_iff.mpr hsome
    refine ⟨(usesSince before).getLast hne, List.getLast?_eq_some_getLast hne, ?_⟩
    rw [h.remembers rfl, closest, List.getLast?_eq_some_getLast hne]
    rfl

/-- A child that neither defines a nameless record for the fields after it nor uses one. -/
theorem skip (h : Tracks before number pending last)
    (definition : child.isNamelessDefinition = false) (uses : child.usesNamelessRecord = false) :
    Tracks (child :: before) (number + if child.isAnonymousPart then 1 else 0) pending last := by
  refine ⟨?_, ?_, ?_⟩
  · rw [List.countP_cons, h.counts]
  · rw [h.waits, waiting?_cons, definition, uses]
    rfl
  · rw [usesSince_cons definition, closestDefinition?_cons, definition, uses]
    exact h.remembers

theorem anonymous (h : Tracks before number pending last) (part : child.isAnonymousPart = true) :
    Tracks (child :: before) (number + 1) pending last := by
  simpa [part] using h.skip (isNamelessDefinition_of_isAnonymousPart part)
    (usesNamelessRecord_of_isAnonymousPart part)

theorem other (h : Tracks before number pending last) (part : child.isAnonymousPart = false)
    (definition : child.isNamelessDefinition = false) (uses : child.usesNamelessRecord = false) :
    Tracks (child :: before) number pending last := by
  simpa [part] using h.skip definition uses

theorem define (h : Tracks before number pending last)
    (definition : child.isNamelessDefinition = true) :
    Tracks (child :: before) number (some child) last := by
  have hpart := isAnonymousPart_of_isNamelessDefinition definition
  refine ⟨?_, ?_, nofun⟩
  · rw [List.countP_cons_of_neg (by simp [hpart]), h.counts]
  · rw [waiting?_cons, if_pos definition]

/-- A field that uses a nameless record takes the definition that waits, if there is one. -/
theorem use (h : Tracks before number pending last) (uses : child.usesNamelessRecord = true) :
    Tracks (child :: before) number none
      (if pending.isSome then some child.spelling else last) := by
  have hkind := kind_of_usesNamelessRecord uses
  have hdefinition := isNamelessDefinition_of_kind hkind
  refine ⟨?_, ?_, fun _ => ?_⟩
  · rw [List.countP_cons_of_neg (by simp [isAnonymousPart_of_kind hkind]), h.counts]
  · rw [waiting?_cons, hdefinition, uses]
    rfl
  · rw [usesSince_cons hdefinition, if_pos uses, closestDefinition?_cons, hdefinition,
      List.getLast?_cons]
    cases pending with
    | some nested =>
        obtain ⟨hclosest, hnone⟩ := h.usesSince_eq_nil
        simp [hclosest, hnone]
    | none =>
        cases hclosest : closestDefinition? before with
        | none => simp [h.remembers rfl, hclosest]
        | some nested =>
            obtain ⟨first, htaken, rfl⟩ := h.exists_taken hclosest
            simp [htaken]

/-- The lowering finds the record of a field by what it remembers. -/
theorem recordFor_eq (h : Tracks before number pending last) :
    recordFor pending (if pending.isSome then some child.spelling else last) =
      (Place.mk before child).source := by
  simp only [Place.source, Place.definition?, Place.declares, Place.declarer]
  cases pending with
  | some nested =>
      obtain ⟨hclosest, hnone⟩ := h.usesSince_eq_nil
      simp [recordFor, hclosest, hnone]
  | none =>
      cases hclosest : closestDefinition? before with
      | none => simp [recordFor, h.remembers rfl, hclosest]
      | some nested =>
          obtain ⟨first, htaken, rfl⟩ := h.exists_taken hclosest
          have hne : usesSince before ≠ [] := by
            rintro hnone
            rw [hnone] at htaken
            cases htaken
          simp [recordFor, htaken, hne]

end Tracks

/-- The lowering finds the members at their places. -/
theorem ofChildren_eq {before children : List Declaration} {number : Nat}
    {pending : Option Declaration} {last : Option String} (h : Tracks before number pending last) :
    ofChildren number pending last children =
      ((placesFrom before children).filter Place.isMember).map Place.member := by
  fun_induction ofChildren number pending last children generalizing before with
  | case1 => rfl
  | case2 number pending last child children hrecord hanonymous ih =>
      have hpart : child.isAnonymousPart = true := by simp [isAnonymousPart, hrecord, hanonymous]
      have hmember : (Place.mk before child).isMember = true := by
        simp [Place.isMember, isMember, hrecord, hanonymous]
      rw [placesFrom, List.filter_cons_of_pos hmember, List.map_cons, ih (h.anonymous hpart)]
      simp [Place.member, Place.number, hpart, h.counts]
  | case3 number pending last child children hrecord hanonymous hnameless ih =>
      have hdefinition : child.isNamelessDefinition = true := by
        simp [isNamelessDefinition, hrecord, hanonymous, hnameless]
      have hmember : (Place.mk before child).isMember = false := by
        have hkind := kind_ne_field_of_isRecord ((Bool.and_eq_true _ _).mp hrecord).1
        simp [Place.isMember, isMember, hkind, hanonymous]
      rw [placesFrom, List.filter_cons_of_neg (by simp [hmember]), ih (h.define hdefinition)]
  | case4 number pending last child children hrecord hanonymous hnamed ih =>
      have hkind := ((Bool.and_eq_true _ _).mp hrecord).1
      have hmember : (Place.mk before child).isMember = false := by
        simp [Place.isMember, isMember, kind_ne_field_of_isRecord hkind, hanonymous]
      have hlater : Tracks (child :: before) number pending last :=
        h.other (by simp [isAnonymousPart, hanonymous]) (by simp [isNamelessDefinition, hnamed])
          (usesNamelessRecord_of_isRecord hkind)
      rw [placesFrom, List.filter_cons_of_neg (by simp [hmember]), ih hlater]
  | case5 number pending last child children hrecord hfield huses taken =>
      rename_i ih
      have hmember : (Place.mk before child).isMember = true := by
        simp [Place.isMember, isMember, hfield]
      have hown : child.usesNamelessRecord = true := by simp [usesNamelessRecord, hfield, huses]
      rw [placesFrom, List.filter_cons_of_pos hmember, List.map_cons, ih (h.use hown)]
      simp only [Place.member, isAnonymousPart_of_kind hfield, huses, Bool.false_eq_true, if_false,
        if_true]
      rw [← h.recordFor_eq]
  | case6 number pending last child children hrecord hfield huses ih =>
      have hmember : (Place.mk before child).isMember = true := by
        simp [Place.isMember, isMember, hfield]
      have hlater : Tracks (child :: before) number pending last :=
        h.other (isAnonymousPart_of_kind hfield) (isNamelessDefinition_of_kind hfield)
          (by simp [usesNamelessRecord, huses])
      rw [placesFrom, List.filter_cons_of_pos hmember, List.map_cons, ih hlater]
      simp [Place.member, isAnonymousPart_of_kind hfield, huses]
  | case7 number pending last child children hrecord hfield ih =>
      have hplain : (child.kind.isRecord && child.isDefinition) = false := by simpa using hrecord
      have hmember : (Place.mk before child).isMember = false := by
        simp [Place.isMember, isMember, hfield, hplain]
      have hlater : Tracks (child :: before) number pending last :=
        h.other (by simp [isAnonymousPart, hplain]) (by simp [isNamelessDefinition, hplain])
          (by simp [usesNamelessRecord, hfield])
      rw [placesFrom, List.filter_cons_of_neg (by simp [hmember]), ih hlater]

/-- What a member lifts out, with its name. -/
def lift? (member : RecordMember) : Option (String × Declaration) :=
  member.nested?.map (member.label, ·)

theorem lift?_member {place : Place} (h : place.isMember = true) :
    place.member.lift? = place.lift? := by
  cases hpart : place.child.isAnonymousPart with
  | true =>
      simp only [Place.member, Place.lift?, hpart, if_true]
      rfl
  | false =>
      rw [Place.isMember, isMember_eq, hpart, Bool.or_false] at h
      have hfield : place.child.kind = .field := of_decide_eq_true h
      simp only [Place.member, Place.lift?, hpart, usesNamelessRecord, hfield, decide_true,
        Bool.true_and, Bool.false_eq_true, if_false, Place.source, Place.definition?,
        Place.declares, waiting?]
      cases place.child.type.usesNamelessRecord with
      | false => rfl
      | true =>
          cases closestDefinition? place.before with
          | none => by_cases hnone : usesSince place.before = [] <;> simp [hnone, lift?, nested?]
          | some nested =>
              by_cases hnone : usesSince place.before = [] <;> simp [hnone, lift?, nested?, label]

theorem lift?_eq_none_of_not_isMember {place : Place} (h : place.isMember = false) :
    place.lift? = none := by
  rw [Place.isMember, isMember_eq, Bool.or_eq_false_iff] at h
  simp [Place.lift?, h.2, usesNamelessRecord, of_decide_eq_false h.1]

end RecordMember

namespace Declaration

variable (record : Declaration)

/-- The lowering finds the members of a record at their places. -/
theorem members_eq : record.members = record.memberPlaces.map Place.member :=
  RecordMember.ofChildren_eq RecordMember.tracks_nil

/-- What is lifted out of a record is lifted out for its members. -/
theorem lifts_eq : record.lifts = record.members.filterMap RecordMember.lift? := by
  rw [members_eq, List.filterMap_map, memberPlaces, lifts]
  induction record.places with
  | nil => rfl
  | cons place places ih =>
      cases hmember : place.isMember with
      | true =>
          rw [List.filter_cons_of_pos hmember, List.filterMap_cons, List.filterMap_cons, ih,
            Function.comp_apply, RecordMember.lift?_member hmember]
      | false =>
          rw [List.filter_cons_of_neg (by simp [hmember]), List.filterMap_cons,
            RecordMember.lift?_eq_none_of_not_isMember hmember]
          exact ih

variable {record : Declaration}

theorem mem_placesFrom_of_cons {before children rest : List Declaration} {child next : Declaration}
    (h : ⟨child :: rest, next⟩ ∈ placesFrom before children) :
    before = child :: rest ∨ ⟨rest, child⟩ ∈ placesFrom before children := by
  induction children generalizing before with
  | nil => cases h
  | cons first children ih =>
      rcases List.mem_cons.mp h with heq | hlater
      · cases heq
        exact .inl rfl
      · rcases ih hlater with heq | hmem
        · cases heq
          exact .inr List.mem_cons_self
        · exact .inr (List.mem_cons_of_mem _ hmem)

/-- The definition before a field that uses it was lifted out for the first field after it, if that
is not this one. The induction is on the children in between. -/
theorem mem_lifts_of_usesSince {before : List Declaration} {next first nested : Declaration}
    (place : ⟨before, next⟩ ∈ record.places) (closest : closestDefinition? before = some nested)
    (taken : (usesSince before).getLast? = some first) :
    (first.spelling, nested) ∈ record.lifts := by
  induction before generalizing next with
  | nil => cases closest
  | cons child rest ih =>
      have hplace : ⟨rest, child⟩ ∈ record.places :=
        (mem_placesFrom_of_cons place).resolve_left nofun
      cases hdefinition : child.isNamelessDefinition with
      | true =>
          rw [usesSince_cons_of_definition hdefinition] at taken
          cases taken
      | false =>
          rw [closestDefinition?_cons, hdefinition] at closest
          rw [usesSince_cons hdefinition] at taken
          cases huses : child.usesNamelessRecord with
          | false =>
              rw [huses] at taken
              exact ih hplace closest taken
          | true =>
              rw [if_pos huses, List.getLast?_cons, Option.some.injEq] at taken
              cases hrest : (usesSince rest).getLast? with
              | some other =>
                  rw [hrest] at taken
                  cases taken
                  exact ih hplace closest hrest
              | none =>
                  rw [hrest] at taken
                  cases taken
                  refine List.mem_filterMap.mpr ⟨_, hplace, ?_⟩
                  have hnone : usesSince rest = [] := List.getLast?_eq_none_iff.mp hrest
                  have hclosest : closestDefinition? rest = some nested := closest
                  have hpart := isAnonymousPart_of_kind (kind_of_usesNamelessRecord huses)
                  simp [Place.lift?, hpart, huses, waiting?, hnone, hclosest]

/-- The definition that a field uses is lifted out for the field that declares it. -/
theorem mem_lifts_of_definition? {place : Place} {nested : Declaration}
    (hplace : place ∈ record.places) (uses : place.child.usesNamelessRecord = true)
    (definition : place.definition? = some nested) :
    (place.declarer.spelling, nested) ∈ record.lifts := by
  rw [Place.declarer]
  cases htaken : (usesSince place.before).getLast? with
  | some first => exact mem_lifts_of_usesSince hplace definition htaken
  | none =>
      refine List.mem_filterMap.mpr ⟨place, hplace, ?_⟩
      have hnone : usesSince place.before = [] := List.getLast?_eq_none_iff.mp htaken
      have hclosest : closestDefinition? place.before = some nested := definition
      have hpart := isAnonymousPart_of_kind (kind_of_usesNamelessRecord uses)
      simp [Place.lift?, hpart, uses, waiting?, hnone, hclosest]

theorem exists_member_of_mem_lifts {lift : String × Declaration} (h : lift ∈ record.lifts) :
    ∃ member ∈ record.members, member.label = lift.1 ∧ member.nested? = some lift.2 := by
  rw [lifts_eq] at h
  obtain ⟨member, hmember, hlift⟩ := List.mem_filterMap.mp h
  obtain ⟨nested, hnested, rfl⟩ := Option.map_eq_some_iff.mp hlift
  exact ⟨member, hmember, rfl, hnested⟩

theorem mem_lifts_of_mem_members {member : RecordMember} {nested : Declaration}
    (hmember : member ∈ record.members) (hnested : member.nested? = some nested) :
    (member.label, nested) ∈ record.lifts := by
  rw [lifts_eq]
  exact List.mem_filterMap.mpr ⟨member, hmember, by simp [RecordMember.lift?, hnested]⟩

theorem isNamelessPart_of_waiting? {before : List Declaration} {nested : Declaration}
    (h : waiting? before = some nested) : nested.isNamelessPart = true := by
  rw [waiting?] at h
  split at h
  · exact (Bool.or_eq_true _ _).mpr (.inr (List.find?_some h))
  · cases h

/-- What is lifted out of a record is one of the children that are nameless parts. -/
theorem nameless_of_mem_lifts {lift : String × Declaration} (h : lift ∈ record.lifts) :
    lift.2 ∈ record.children.filter isNamelessPart := by
  obtain ⟨member, hmember, -, hnested⟩ := exists_member_of_mem_lifts h
  refine List.mem_filter.mpr ⟨nested_mem_children hmember hnested, ?_⟩
  obtain ⟨place, -, hlift⟩ := List.mem_filterMap.mp h
  rw [Place.lift?] at hlift
  split at hlift
  · rename_i hpart
    cases hlift
    exact (Bool.or_eq_true _ _).mpr (.inl hpart)
  · split at hlift
    · obtain ⟨nested, hwaiting, rfl⟩ := Option.map_eq_some_iff.mp hlift
      exact isNamelessPart_of_waiting? hwaiting
    · cases hlift

end Declaration

end Interop
