import Interop.Proofs.Lowering.Places
import Interop.Proofs.Source.Names
import Mathlib.Data.List.Nodup
import Mathlib.Data.List.Perm.Basic

/-!
# Names of the members of a structure

The members of a structure need names that differ from each other and from that of the structure.
They come from three sources. A field keeps its name, unless that is the name of the structure: then
it takes an underscore. An anonymous member is called by its number, and the only member of a
wrapper by what it holds. None of these looks at the others, so they meet when the header happens to
use such a name (`Mapper.separatesMembers_main_iff`).

Two names are the same if they are the same identifier; an `@` in front makes no difference.
-/

namespace Interop

open Identifier

open scoped List

/-! ## Structures -/

/-- The names of the members of a structure. -/
def SymbolBody.memberNames : SymbolBody → List String
  | .record _ _ fields => fields.map (·.name)
  | .wrapper field _ => [field]
  | .enumeration _ _ | .delegate _ | .function _ _ _ => []

/-- The members of a structure have different names, and none has that of the structure. -/
structure BindingSymbol.SeparatesMembers (symbol : BindingSymbol) : Prop where
  distinct : (symbol.body.memberNames.map bare).Nodup
  apart : bare symbol.emittedName ∉ symbol.body.memberNames.map bare

instance (symbol : BindingSymbol) : Decidable symbol.SeparatesMembers :=
  decidable_of_iff
    ((symbol.body.memberNames.map bare).Nodup ∧
      bare symbol.emittedName ∉ symbol.body.memberNames.map bare)
    ⟨fun h => ⟨h.1, h.2⟩, fun h => ⟨h.distinct, h.apart⟩⟩

/-- The only member of a wrapper is called like the wrapper or not. -/
theorem separatesMembers_wrapper_iff {symbol : BindingSymbol} {type : ManagedType}
    (body : symbol.body = .wrapper (Mapper.wrapperField type) type) :
    symbol.SeparatesMembers ↔ bare symbol.emittedName ≠ Mapper.wrapperField type := by
  have hunmarked : isMarked (Mapper.wrapperField type) = false := by
    unfold Mapper.wrapperField
    split <;> decide
  have hnames : symbol.body.memberNames.map bare = [Mapper.wrapperField type] := by
    rw [body, SymbolBody.memberNames, List.map_singleton, bare_of_not_isMarked hunmarked]
  constructor
  · rintro ⟨-, hapart⟩ hsame
    rw [hnames, hsame] at hapart
    exact hapart List.mem_cons_self
  · intro hdiffer
    refine ⟨?_, ?_⟩
    · rw [hnames]
      exact List.nodup_singleton _
    · rw [hnames]
      exact fun hmem => hdiffer (List.mem_singleton.mp hmem)

/-! ## Members of records -/

namespace RecordMember

/-- The name of an anonymous member. -/
def anonymousName (number : Nat) : String := "Anonymous" ++ toString number

/-- The name of a member in the structure. -/
def boundName (context : RecordContext) : RecordMember → String
  | .anonymous number _ => anonymousName number
  | .field declaration _ => context.fieldName declaration.spelling

theorem Lowers.name_eq {mapper : Mapper} {context : RecordContext} {member : RecordMember}
    {lowered : LoweredMember} (h : Lowers mapper context member lowered) :
    member.boundName context = lowered.binding.name := by
  cases h with
  | anonymous | field | declared | shared => rfl

/-- The members are the numbered ones and the fields, in some order. -/
theorem map_boundName_perm (context : RecordContext) (number : Nat) (pending : Option Declaration)
    (last : Option String) (children : List Declaration) :
    (ofChildren number pending last children).map (boundName context) ~
      (List.range' number (children.countP Declaration.isAnonymousPart)).map anonymousName ++
        (children.filter (·.kind = .field)).map fun field => context.fieldName field.spelling := by
  fun_induction ofChildren number pending last children with
  | case1 => exact .nil
  | case2 number pending last child children hrecord hanonymous ih =>
      have hpart : child.isAnonymousPart = true := by
        simp [Declaration.isAnonymousPart, hrecord, hanonymous]
      have hkind : child.kind ≠ .field :=
        Declaration.kind_ne_field_of_isRecord ((Bool.and_eq_true _ _).mp hrecord).1
      rw [List.countP_cons_of_pos hpart, List.range'_succ, List.filter_cons_of_neg (by simpa)]
      exact .cons _ ih
  | case3 number pending last child children hrecord hanonymous _ ih
  | case4 number pending last child children hrecord hanonymous _ ih =>
      have hkind : child.kind ≠ .field :=
        Declaration.kind_ne_field_of_isRecord ((Bool.and_eq_true _ _).mp hrecord).1
      rw [List.countP_cons_of_neg (by simp [Declaration.isAnonymousPart, hanonymous]),
        List.filter_cons_of_neg (by simpa)]
      exact ih
  | case5 number pending last child children _ hfield _ _ ih
  | case6 number pending last child children _ hfield _ ih =>
      rw [List.countP_cons_of_neg (by simp [Declaration.isAnonymousPart_of_kind hfield]),
        List.filter_cons_of_pos (by simpa)]
      exact .trans (.cons _ ih) List.perm_middle.symm
  | case7 number pending last child children hrecord hfield ih =>
      have hplain : (child.kind.isRecord && child.isDefinition) = false := by simpa using hrecord
      rw [List.countP_cons_of_neg (by simp [Declaration.isAnonymousPart, hplain]),
        List.filter_cons_of_neg (by simpa)]
      exact ih

end RecordMember

namespace Declaration

/-- The names that the header gives to the fields of a record. -/
def fieldNames (record : Declaration) : List String :=
  (record.childrenOfKind .field).map (·.spelling)

/-- The number of the anonymous members of a record. -/
def anonymousCount (record : Declaration) : Nat := record.children.countP isAnonymousPart

/-- Nothing in a record meets when it is declared as a structure called `name`. -/
structure KeepsNamesApart (record : Declaration) (name : String) : Prop where
  /-- Neither a field nor the structure is called like an anonymous member. -/
  numbered : ∀ number < record.anonymousCount,
    RecordMember.anonymousName number ∉ record.fieldNames ∧
      RecordMember.anonymousName number ≠ bare (escape name)
  /-- The new name of the field that is called like the structure is not that of another field. -/
  renamed : ∀ field ∈ record.fieldNames, escape field = escape name →
    field ++ "_" ∉ record.fieldNames
  /-- A field that is called like the structure is written like it; it may not be if the name of the
  structure has an `@` in the header. -/
  marked : ∀ field ∈ record.fieldNames, bare (escape name) = field → escape field = escape name

end Declaration

/-! ## When names meet -/

namespace RecordContext

variable {context : RecordContext} {fields : List String} {field : String}

/-- The identifier of a field. -/
def fieldIdentifier (context : RecordContext) (field : String) : String :=
  if escape field = escape context.name then field ++ "_" else field

theorem bare_escape_append_underscore (valid : isValid field = true) :
    bare (escape field ++ "_") = field ++ "_" := by
  unfold escape
  split
  · rw [String.append_assoc, bare_at]
  · exact bare_of_not_isMarked (isMarked_of_isValid (isValid_append_underscore valid))

theorem bare_fieldName (valid : isValid field = true) :
    bare (context.fieldName field) = context.fieldIdentifier field := by
  rw [fieldName, fieldIdentifier]
  split
  · exact bare_escape_append_underscore valid
  · exact bare_escape (isMarked_of_isValid valid)

theorem append_underscore_ne (field : String) : field ++ "_" ≠ field := by
  intro h
  have hlength := congrArg String.length h
  simp at hlength

section

variable (context : RecordContext)

/-- The fields have different names exactly if that of the renamed field is new. -/
theorem nodup_fieldIdentifiers_iff (distinct : fields.Nodup)
    (valid : ∀ field ∈ fields, isValid field = true) :
    (fields.map context.fieldIdentifier).Nodup ↔
      ∀ field ∈ fields, escape field = escape context.name → field ++ "_" ∉ fields := by
  constructor
  · intro hnodup field hfield hown hin
    have hother : escape (field ++ "_") ≠ escape context.name := by
      intro hsame
      exact append_underscore_ne field
        (escape_injective (valid _ hin) (valid _ hfield) (hsame.trans hown.symm))
    have hmeet : context.fieldIdentifier field = context.fieldIdentifier (field ++ "_") := by
      rw [fieldIdentifier, if_pos hown, fieldIdentifier, if_neg hother]
    exact append_underscore_ne field
      (List.inj_on_of_nodup_map hnodup hfield hin hmeet).symm
  · intro hrenamed
    refine List.Nodup.map_on ?_ distinct
    intro field hfield other hother hmeet
    rw [fieldIdentifier, fieldIdentifier] at hmeet
    split at hmeet <;> split at hmeet
    · exact (String.append_left_inj "_").mp hmeet
    · rename_i hown _
      exact absurd (hmeet ▸ hother) (hrenamed field hfield hown)
    · rename_i _ hown
      exact absurd (hmeet ▸ hfield) (hrenamed other hother hown)
    · exact hmeet

/-- The structure is called like none of its fields exactly if a field that has its name is written
like it. -/
theorem own_not_mem_fieldIdentifiers_iff (valid : ∀ field ∈ fields, isValid field = true) :
    bare (escape context.name) ∉ fields.map context.fieldIdentifier ↔
      ∀ field ∈ fields, bare (escape context.name) = field →
        escape field = escape context.name := by
  constructor
  · intro hapart field hfield hsame
    by_contra hother
    refine hapart (List.mem_map.mpr ⟨field, hfield, ?_⟩)
    rw [fieldIdentifier, if_neg hother, hsame]
  · intro hmarked hin
    obtain ⟨field, hfield, hmeet⟩ := List.mem_map.mp hin
    rw [fieldIdentifier] at hmeet
    split at hmeet
    · rename_i hown
      rw [← hown, bare_escape (isMarked_of_isValid (valid field hfield))] at hmeet
      exact append_underscore_ne field hmeet
    · rename_i hother
      exact hother (hmarked field hfield hmeet.symm)

/-- A number is the name of a field exactly if the header calls a field so, given that the structure
is not called so. -/
theorem anonymousName_mem_fieldIdentifiers_iff (valid : ∀ field ∈ fields, isValid field = true)
    {number : Nat} (apart : RecordMember.anonymousName number ≠ bare (escape context.name)) :
    RecordMember.anonymousName number ∈ fields.map context.fieldIdentifier ↔
      RecordMember.anonymousName number ∈ fields := by
  constructor
  · intro hin
    obtain ⟨field, hfield, hmeet⟩ := List.mem_map.mp hin
    rw [fieldIdentifier] at hmeet
    split at hmeet
    · exact absurd hmeet.symm (numbered_ne_append_underscore _ _ _)
    · exact hmeet ▸ hfield
  · intro hin
    have hother : escape (RecordMember.anonymousName number) ≠ escape context.name := by
      intro hown
      rw [← hown, bare_escape (isMarked_of_isValid (valid _ hin))] at apart
      exact apart rfl
    exact List.mem_map.mpr ⟨_, hin, by rw [fieldIdentifier, if_neg hother]⟩

end

end RecordContext

theorem nodup_anonymousNames (count : Nat) :
    ((List.range count).map RecordMember.anonymousName).Nodup :=
  List.Nodup.map (fun _ _ => numbered_injective) List.nodup_range

theorem bare_anonymousName (number : Nat) :
    bare (RecordMember.anonymousName number) = RecordMember.anonymousName number :=
  bare_of_not_isMarked (isMarked_of_isValid (isValid_numbered (by decide) number))

namespace Mapper

variable {mapper : Mapper} {record : Declaration} {name : String} {group : SymbolGroup}

/-- The identifiers of the members of a structure: numbers and fields, in some order. -/
theorem memberNames_perm (h : mapper.lowerRecordAs record name = .ok group)
    (valid : ∀ field ∈ record.fieldNames, isValid field = true) :
    group.main.body.memberNames.map bare ~
      (List.range record.anonymousCount).map RecordMember.anonymousName ++
        record.fieldNames.map (record.context name).fieldIdentifier := by
  obtain ⟨members, hmembers, hclose⟩ := lowerRecordAs_eq_ok_iff.mp h
  obtain ⟨-, pack, -, rfl⟩ := RecordContext.close_eq_ok_iff.mp hclose
  have hnames : (members.map (·.binding)).map (·.name) =
      record.members.map (RecordMember.boundName (record.context name)) := by
    rw [List.map_map]
    exact (map_eq_map_of_forall₂ hmembers fun _ _ hlowers => hlowers.name_eq).symm
  have hnumbers : ((List.range record.anonymousCount).map RecordMember.anonymousName).map bare =
      (List.range record.anonymousCount).map RecordMember.anonymousName := by
    rw [List.map_map]
    exact List.map_congr_left fun number _ => bare_anonymousName number
  have hfields : (record.fieldNames.map (record.context name).fieldName).map bare =
      record.fieldNames.map (record.context name).fieldIdentifier := by
    rw [List.map_map]
    exact List.map_congr_left fun field hfield => RecordContext.bare_fieldName (valid field hfield)
  calc ((members.map (·.binding)).map (·.name)).map bare
    _ = (record.members.map (RecordMember.boundName (record.context name))).map bare := by
        rw [hnames]
    _ ~ ((List.range record.anonymousCount).map RecordMember.anonymousName ++
          record.fieldNames.map (record.context name).fieldName).map bare := by
        refine List.Perm.map bare ?_
        rw [List.range_eq_range', Declaration.fieldNames, List.map_map]
        exact RecordMember.map_boundName_perm _ 0 none none record.children
    _ = _ := by rw [List.map_append, hnumbers, hfields]

/-- The members of a structure have different names, and none that of the structure, exactly if
nothing meets in its record. -/
theorem separatesMembers_main_iff (h : mapper.lowerRecordAs record name = .ok group)
    (distinct : record.fieldNames.Nodup)
    (valid : ∀ field ∈ record.fieldNames, isValid field = true) :
    group.main.SeparatesMembers ↔ record.KeepsNamesApart name := by
  have hperm := memberNames_perm h valid
  have hemitted : group.main.emittedName = escape name := (main_of_lowerRecordAs h).2.2.1
  have hrenamed := (record.context name).nodup_fieldIdentifiers_iff distinct valid
  have hmarked := (record.context name).own_not_mem_fieldIdentifiers_iff valid
  constructor
  · rintro ⟨hdistinct, hapart⟩
    rw [hperm.nodup_iff, List.nodup_append] at hdistinct
    rw [hperm.mem_iff, hemitted, List.mem_append, not_or] at hapart
    refine ⟨fun number hnumber => ?_, hrenamed.mp hdistinct.2.1, hmarked.mp hapart.2⟩
    have hin : RecordMember.anonymousName number ∈
        (List.range record.anonymousCount).map RecordMember.anonymousName :=
      List.mem_map_of_mem (List.mem_range.mpr hnumber)
    have hown : RecordMember.anonymousName number ≠ bare (escape name) := by
      intro hsame
      exact hapart.1 (hsame ▸ hin)
    refine ⟨fun hfield => ?_, hown⟩
    have hidentifier :=
      ((record.context name).anonymousName_mem_fieldIdentifiers_iff valid hown).mpr hfield
    exact hdistinct.2.2 _ hin _ hidentifier rfl
  · rintro ⟨hnumbered, hkept, hwritten⟩
    refine ⟨?_, ?_⟩
    · rw [hperm.nodup_iff, List.nodup_append]
      refine ⟨nodup_anonymousNames _, hrenamed.mpr hkept, ?_⟩
      rintro _ hin other hother rfl
      obtain ⟨number, hnumber, rfl⟩ := List.mem_map.mp hin
      obtain ⟨hnew, hown⟩ := hnumbered number (List.mem_range.mp hnumber)
      exact hnew (((record.context name).anonymousName_mem_fieldIdentifiers_iff valid hown).mp
        hother)
    · rw [hperm.mem_iff, hemitted, List.mem_append, not_or]
      refine ⟨fun hin => ?_, hmarked.mpr hwritten⟩
      obtain ⟨number, hnumber, hsame⟩ := List.mem_map.mp hin
      exact (hnumbered number (List.mem_range.mp hnumber)).2 hsame

/-- Every symbol of a lowered record is the structure for a record somewhere in it. -/
theorem origin_of_mem_symbols (h : mapper.lowerRecordAs record name = .ok group)
    (isRecord : record.kind.isRecord = true) {symbol : BindingSymbol}
    (hsymbol : symbol ∈ group.symbols) :
    ∃ node ∈ record.nodes, node.kind.isRecord = true ∧ ∃ inner own,
      mapper.lowerRecordAs node inner = .ok own ∧ symbol = own.main := by
  induction record, name using Mapper.lowerRecordAs.induct generalizing group symbol with
  | case1 record name ih =>
      rcases List.mem_append.mp hsymbol with hhoisted | hmain
      · obtain ⟨members, hmembers, hclose⟩ := lowerRecordAs_eq_ok_iff.mp h
        obtain ⟨-, pack, -, rfl⟩ := RecordContext.close_eq_ok_iff.mp hclose
        obtain ⟨member, hmember, -, -, label, nested, inner, hnested, hhoists, -, hin⟩ :=
          RecordMember.Lowers.exists_group_of_mem_hoisted hmembers hhoisted
        obtain ⟨hchild, hpart⟩ := List.mem_filter.mp (Declaration.nameless_of_mem_lifts
          (Declaration.mem_lifts_of_mem_members hmember hnested))
        obtain ⟨node, hnode, horigin⟩ := ih member hmember nested hnested _ hhoists.1
          (Declaration.isRecord_of_isNamelessPart hpart) hin
        exact ⟨node, Declaration.nodes_child hchild hnode, horigin⟩
      · exact ⟨record, record.mem_nodes, isRecord, name, group, h, List.mem_singleton.mp hmain⟩

end Mapper

end Interop
