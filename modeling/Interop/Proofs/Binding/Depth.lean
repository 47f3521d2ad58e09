import Interop.Proofs.Binding.Occurrences
import Interop.Proofs.Binding.References
import Interop.Proofs.Binding.Settling
import Interop.Proofs.Lowering.Simple
import Mathlib.Data.Fintype.Order

/-!
# How deep records may be nested

In headers of simple records (`TranslationUnit.HoldsSimpleRecords`) a run binds a record when its
index has the records that this one holds by value. So each round of settling discovers one level
more than the round before: after `n` rounds the index has the records of depth at most `n`
(`BindingOptions.mem_records_iterate_iff`). The last run adds a level of its own. As there are no
more than 32 rounds, what is bound are the records of depth at most 33, and the others are
reported (`BindingOptions.bindsByDepth`). Pointers from record to record play no part in this.

The names of the records have to differ as they are written, that is, with an `@` in front of
reserved words, and no record may be marked as an anonymous member
(`BindingOptions.not_bindsByDepth`).
-/

namespace Interop

/-! ## Depth -/

theorem max?_getD_le {depths : List Nat} {limit : Nat} (h : ∀ depth ∈ depths, depth ≤ limit) :
    depths.max?.getD 0 ≤ limit := by
  cases hmax : depths.max? with
  | none => exact Nat.zero_le limit
  | some largest => exact h largest (List.max?_eq_some_iff.mp hmax).1

namespace TranslationUnit

variable (units : List TranslationUnit)

/-- The structures that headers offer. -/
def records : List Declaration :=
  (units.flatMap (·.declarations)).filter fun node => node.kind = .struct

/-- The names of these structures. -/
def recordNames : List String := (records units).filterMap (·.typeName?)

/-- All that headers offer are simple records and their fields. -/
def HoldsSimpleRecords : Prop :=
  ∀ node ∈ units.flatMap (·.declarations), node.kind = .field ∨ node.IsSimpleRecord

instance : Decidable (HoldsSimpleRecords units) :=
  inferInstanceAs (Decidable (∀ node ∈ units.flatMap (·.declarations),
    node.kind = .field ∨ node.IsSimpleRecord))

/-- A record holds another one by value. -/
def Holds (name other : String) : Prop :=
  ∃ record ∈ records units, record.typeName? = some name ∧ other ∈ record.held

/-- The depth of a record: one more than the largest depth of the records that it holds by
value. -/
inductive HasDepth : String → Nat → Prop
  | intro {record : Declaration} {name : String} {depth : String → Nat}
      (declared : record ∈ records units) (named : record.typeName? = some name)
      (held : ∀ other ∈ record.held, HasDepth other (depth other)) :
      HasDepth name (1 + (record.held.map depth).max?.getD 0)

/-- A record has a depth, and it is not beyond a limit. -/
def DepthAtMost (limit : Nat) (name : String) : Prop :=
  ∃ depth ≤ limit, HasDepth units name depth

variable {units} {name other : String} {limit depth : Nat} {record : Declaration}

theorem not_depthAtMost_zero : ¬ DepthAtMost units 0 name := by
  rintro ⟨depth, hle, ⟨-, -, -⟩⟩
  omega

/-- A record is one level deeper than what it holds. -/
theorem depthAtMost_succ_iff : DepthAtMost units (limit + 1) name ↔
    ∃ record ∈ records units, record.typeName? = some name ∧
      ∀ held ∈ record.held, DepthAtMost units limit held := by
  constructor
  · rintro ⟨_, hle, hdepth⟩
    cases hdepth with
    | @intro record _ depth declared named held =>
        refine ⟨record, declared, named, fun other hother => ⟨depth other, ?_, held other hother⟩⟩
        have hmax : depth other ≤ (record.held.map depth).max?.getD 0 :=
          List.le_max?_getD_of_mem (List.mem_map_of_mem hother)
        omega
  · rintro ⟨record, declared, named, held⟩
    choose! depth hle hdepth using held
    refine ⟨_, ?_, .intro declared named hdepth⟩
    have hmax : (record.held.map depth).max?.getD 0 ≤ limit :=
      max?_getD_le (List.forall_mem_map.mpr hle)
    omega

/-- Whether the depth of a record is within a limit. -/
def isDepthAtMost (units : List TranslationUnit) : Nat → String → Bool
  | 0, _ => false
  | limit + 1, name => (records units).any fun record =>
    record.typeName? = some name && record.held.all (isDepthAtMost units limit)

theorem isDepthAtMost_iff : isDepthAtMost units limit name = true ↔
    DepthAtMost units limit name := by
  induction limit generalizing name with
  | zero => simpa [isDepthAtMost] using not_depthAtMost_zero
  | succ limit ih => simp [isDepthAtMost, depthAtMost_succ_iff, ih]

instance (limit : Nat) (name : String) : Decidable (DepthAtMost units limit name) :=
  decidable_of_iff _ isDepthAtMost_iff

/-- A record that has a depth is declared. -/
theorem HasDepth.mem_recordNames (h : HasDepth units name depth) : name ∈ recordNames units := by
  obtain ⟨declared, named, -⟩ := h
  exact List.mem_filterMap.mpr ⟨_, declared, named⟩

/-- Structures with different names are determined by their name. -/
theorem record_unique (distinct : (recordNames units).Nodup) {first second : Declaration}
    (hfirst : first ∈ records units) (hsecond : second ∈ records units)
    (hname : first.typeName? = some name) (hname' : second.typeName? = some name) :
    first = second :=
  eq_of_nodup_filterMap distinct hfirst hsecond hname hname'

theorem HasDepth.unique (distinct : (recordNames units).Nodup) {other : Nat}
    (h : HasDepth units name depth) (h' : HasDepth units name other) : depth = other := by
  induction h generalizing other with
  | @intro record name depth declared named held ih =>
      cases h' with
      | @intro record' _ depth' declared' named' held' =>
          cases record_unique distinct declared declared' named named'
          have hsame : record.held.map depth = record.held.map depth' :=
            List.map_congr_left fun next hnext => ih next hnext (held' next hnext)
          rw [hsame]

/-- What a record holds is less deep. -/
theorem HasDepth.exists_lt (distinct : (recordNames units).Nodup)
    (h : HasDepth units name depth) (hholds : Holds units name other) :
    ∃ smaller < depth, HasDepth units other smaller := by
  obtain ⟨holder, hholder, hname, hother⟩ := hholds
  cases h with
  | @intro record _ depth declared named held =>
      cases record_unique distinct hholder declared hname named
      have hmax : depth other ≤ (holder.held.map depth).max?.getD 0 :=
        List.le_max?_getD_of_mem (List.mem_map_of_mem hother)
      exact ⟨depth other, by omega, held other hother⟩

/-- A record that has a depth does not hold itself, be it through others. -/
theorem HasDepth.not_cyclic (distinct : (recordNames units).Nodup)
    (h : HasDepth units name depth) : ¬ Relation.TransGen (Holds units) name name := by
  have hlower : ∀ other, Relation.TransGen (Holds units) name other →
      ∃ smaller < depth, HasDepth units other smaller := by
    intro other hreaches
    induction hreaches with
    | single hholds => exact h.exists_lt distinct hholds
    | tail _ hholds ih =>
        obtain ⟨middle, hmiddle, hmiddleDepth⟩ := ih
        obtain ⟨smaller, hsmaller, hsmallerDepth⟩ := hmiddleDepth.exists_lt distinct hholds
        exact ⟨smaller, hsmaller.trans hmiddle, hsmallerDepth⟩
  intro hcycle
  obtain ⟨smaller, hsmaller, hsmallerDepth⟩ := hlower name hcycle
  exact hsmaller.ne (hsmallerDepth.unique distinct h)

/-- A record has a depth just when it is declared, as are all that it holds directly or through
others, and none of these holds itself. -/
theorem exists_hasDepth_iff (distinct : (recordNames units).Nodup) :
    (∃ depth, HasDepth units name depth) ↔
      ∀ other, Relation.ReflTransGen (Holds units) name other →
        other ∈ recordNames units ∧ ¬ Relation.TransGen (Holds units) other other := by
  constructor
  · rintro ⟨depth, hdepth⟩ other hreaches
    obtain ⟨depth, hdepth⟩ : ∃ depth, HasDepth units other depth := by
      induction hreaches with
      | refl => exact ⟨depth, hdepth⟩
      | tail _ hholds ih =>
          obtain ⟨_, hearlier⟩ := ih
          obtain ⟨smaller, -, hsmaller⟩ := hearlier.exists_lt distinct hholds
          exact ⟨smaller, hsmaller⟩
    exact ⟨hdepth.mem_recordNames, hdepth.not_cyclic distinct⟩
  · intro h
    -- what is below a record is finite and never below itself, so there is an induction from what
    -- is held to what holds it
    let Below (lower upper : {other // Relation.ReflTransGen (Holds units) name other}) : Prop :=
      Relation.TransGen (Holds units) upper.1 lower.1
    have hfinite : Finite {other // Relation.ReflTransGen (Holds units) name other} :=
      ((recordNames units).finite_toSet.subset fun other hother => (h other hother).1)
    have htrans : IsTrans _ Below := ⟨fun _ _ _ hlower hupper => hupper.trans hlower⟩
    have hirrefl : Std.Irrefl Below := ⟨fun other => (h other.1 other.2).2⟩
    have hwf : WellFounded Below := Finite.wellFounded_of_trans_of_irrefl Below
    suffices hall : ∀ other : {other // Relation.ReflTransGen (Holds units) name other},
        ∃ depth, HasDepth units other.1 depth from hall ⟨name, .refl⟩
    intro other
    induction other using hwf.induction with
    | _ other ih =>
        obtain ⟨record, hrecord, hname⟩ := List.mem_filterMap.mp (h other.1 other.2).1
        have hheld : ∀ next ∈ record.held, ∃ depth, HasDepth units next depth := by
          intro next hnext
          have hholds : Holds units other.1 next := ⟨record, hrecord, hname, hnext⟩
          exact ih ⟨next, other.2.tail hholds⟩ (.single hholds)
        choose! depth hdepth using hheld
        exact ⟨_, .intro hrecord hname hdepth⟩

end TranslationUnit

/-! ## One run -/

namespace Declaration

/-- The index has what a record holds by value. -/
def IsReady (index : SymbolIndex) (record : Declaration) : Prop :=
  ∀ held ∈ record.held, held ∈ index.records

instance (index : SymbolIndex) (record : Declaration) : Decidable (record.IsReady index) :=
  inferInstanceAs (Decidable (∀ held ∈ record.held, held ∈ index.records))

/-- The names of some records as they are written. -/
def writtenNames (records : List Declaration) : List String :=
  (records.filterMap (·.typeName?)).map Identifier.escape

variable {records : List Declaration} {record : Declaration} {native : String}

theorem reportKey_struct (hname : record.typeName? = some native) :
    record.reportKey .struct = (.struct, native) := by
  rw [reportKey, nativeName?, hname]
  rfl

theorem escape_mem_writtenNames (simple : ∀ record ∈ records, record.IsSimpleRecord)
    {keep : Declaration → Bool} {key : SymbolKind × String}
    (h : key ∈ (records.filter keep).map (·.reportKey .struct)) :
    Identifier.escape key.2 ∈ writtenNames records := by
  obtain ⟨record, hrecord, rfl⟩ := List.mem_map.mp h
  have hmem := (List.mem_filter.mp hrecord).1
  obtain ⟨name, hname⟩ := Option.isSome_iff_exists.mp (simple record hmem).named
  rw [reportKey_struct hname]
  exact List.mem_map_of_mem (List.mem_filterMap.mpr ⟨record, hmem, hname⟩)

end Declaration

namespace BindingRun

open Declaration

variable {options : BindingOptions} {index : SymbolIndex} {records : List Declaration}
  {record : Declaration} {run : BindingRun} {name : String}

/-- A run over simple records has bound those that were ready and has reported the others. -/
structure BindsReady (index : SymbolIndex) (records : List Declaration) (run : BindingRun) :
    Prop where
  bound : run.groups.map (·.key) =
    (records.filter fun record => record.IsReady index).map (·.reportKey .struct)
  skipped : run.reported =
    (records.filter fun record => ¬ record.IsReady index).map (·.reportKey .struct)
  symbols_eq : ∀ group ∈ run.groups, group.symbols = [group.main]
  declaredNames_eq : ∀ group ∈ run.groups,
    group.declaredNames = [Identifier.escape group.main.nativeName]

namespace BindsReady

theorem start (options : BindingOptions) : BindsReady index [] (.start (options.registry index)) :=
  ⟨rfl, rfl, nofun, nofun⟩

/-- A record with a new name is not bound yet. -/
theorem isBound_eq_false (h : BindsReady index records run) (honce : run.BindsOnce)
    (simple : ∀ record ∈ records, record.IsSimpleRecord) (hname : record.typeName? = some name)
    (fresh : Identifier.escape name ∉ writtenNames records) :
    run.registry.isBound .struct record = false := by
  have hnative : record.nativeName? .struct = some name := hname
  rw [← Bool.not_eq_true, honce.isBound_iff hnative, binds_iff_mem, h.bound]
  exact fun hkey => fresh (escape_mem_writtenNames simple hkey)

/-- A new name is not claimed yet. -/
theorem not_claimed (h : BindsReady index records run)
    (hgives : GivesAway (options.registry index) run)
    (simple : ∀ record ∈ records, record.IsSimpleRecord)
    (fresh : Identifier.escape name ∉ writtenNames records) :
    Identifier.escape name ∉ run.registry.claimed .types := by
  rw [hgives.mem_claimed, BindingOptions.mem_claimed_registry]
  rintro (⟨⟨⟩, -⟩ | hdeclared)
  obtain ⟨group, hgroup, -, hin⟩ := mem_declared.mp hdeclared
  rw [h.declaredNames_eq group hgroup, List.mem_singleton] at hin
  have hkey : group.key ∈ run.groups.map (·.key) := List.mem_map_of_mem hgroup
  rw [h.bound] at hkey
  exact fresh (hin ▸ escape_mem_writtenNames simple hkey)

/-- A ready record is bound next. -/
theorem binds (h : BindsReady index records run) (last : record.IsSimpleRecord)
    (ready : record.IsReady index) {group : SymbolGroup}
    (lowers : (options.mapper index).Lowers options.naming .struct record group)
    (registry : Registry) :
    BindsReady index (records ++ [record])
      { run with registry, groups := run.groups ++ [group] } := by
  obtain ⟨hsymbols, hdeclared⟩ := Mapper.symbols_of_lowers_simple last lowers
  have hkey : group.key = record.reportKey .struct := by
    rw [reportKey_struct lowers.nativeName_eq, SymbolGroup.key, lowers.kind_main]
  constructor
  case bound => simp [h.bound, ready, hkey]
  case skipped => simpa [reported, ready] using h.skipped
  case symbols_eq => exact List.forall_mem_append.mpr ⟨h.symbols_eq, by simpa using hsymbols⟩
  case declaredNames_eq =>
    exact List.forall_mem_append.mpr ⟨h.declaredNames_eq, by simpa using hdeclared⟩

/-- A record that is not ready is reported next. -/
theorem reports (h : BindsReady index records run)
    (simple : ∀ record ∈ records, record.IsSimpleRecord) (hname : record.typeName? = some name)
    (fresh : Identifier.escape name ∉ writtenNames records) (unready : ¬ record.IsReady index)
    (error : MappingError) :
    BindsReady index (records ++ [record]) (run.skip (record.skipped .struct error)) := by
  have hnew : record.skipped .struct error ∉ run.skipped := by
    intro hentry
    have hkey : record.reportKey .struct ∈ run.reported := List.mem_map_of_mem hentry
    rw [h.skipped, reportKey_struct hname] at hkey
    exact fresh (escape_mem_writtenNames simple hkey)
  have hskipped := h.skipped
  rw [skip, if_neg hnew]
  refine ⟨?_, ?_, h.symbols_eq, h.declaredNames_eq⟩
  · simpa [unready] using h.bound
  · rw [reported] at hskipped ⊢
    simp [hskipped, unready]

/-- A record with a new name is bound if it is ready, and reported if it is not. -/
theorem step (h : BindsReady index records run) (hindex : run.registry.index = index)
    (honce : run.BindsOnce) (hgives : GivesAway (options.registry index) run)
    (simple : ∀ record ∈ records, record.IsSimpleRecord) (last : record.IsSimpleRecord)
    (hname : record.typeName? = some name)
    (fresh : Identifier.escape name ∉ writtenNames records) :
    BindsReady index (records ++ [record]) (run.step options .struct record) := by
  have hbound := h.isBound_eq_false honce simple hname fresh
  have hlowers : (∃ group, (options.mapper index).Lowers options.naming .struct record group) ↔
      record.IsReady index := Mapper.exists_lowers_iff_of_simple last
  rcases hprocess : run.registry.process options .struct record with error | _ | ⟨group, after⟩
  · rw [step_of_process_eq_error hprocess]
    refine h.reports simple hname fresh (fun hready => ?_) error
    -- a ready record is lowered and its name is free, so there is no reason to refuse it
    obtain ⟨group, hgroup⟩ := hlowers.mpr hready
    have hfree : run.registry.firstConflict? .types group.declaredNames = none := by
      rw [Registry.firstConflict?, NameSet.firstTaken?_eq_none_iff,
        (Mapper.symbols_of_lowers_simple last hgroup).2,
        ← Option.some.inj (hname.symm.trans hgroup.nativeName_eq)]
      exact ⟨List.nodup_singleton _,
        List.forall_mem_singleton.mpr (h.not_claimed hgives simple fresh)⟩
    rw [Registry.process_eq_some_iff.mpr ⟨hbound, hindex ▸ hgroup, hfree, rfl⟩] at hprocess
    cases hprocess
  · rcases Registry.process_eq_none_iff.mp hprocess with hemitted | hunneeded
    · rw [hbound] at hemitted
      cases hemitted
    · cases hunneeded
  · rw [step_of_process_eq_some hprocess]
    have hgroup := (Registry.process_eq_some_iff.mp hprocess).2.1
    rw [hindex] at hgroup
    exact h.binds last (hlowers.mp ⟨group, hgroup⟩) hgroup after

end BindsReady

/-- A run over simple records whose names differ as they are written binds those that are
ready. -/
theorem bindsReady_goThrough (options : BindingOptions) (index : SymbolIndex)
    (simple : ∀ record ∈ records, record.IsSimpleRecord) (distinct : (writtenNames records).Nodup) :
    BindsReady index records ((BindingRun.start (options.registry index)).goThrough options
      (records.map fun record => (.struct, record))) := by
  induction records using List.reverseRecOn with
  | nil => exact .start options
  | append_singleton records record ih =>
      obtain ⟨name, hname⟩ := Option.isSome_iff_exists.mp
        (simple record (List.mem_append_right _ List.mem_cons_self)).named
      have hearlier : ∀ other ∈ records, other.IsSimpleRecord :=
        fun other hother => simple other (List.mem_append_left _ hother)
      rw [writtenNames, List.filterMap_append, List.map_append, List.nodup_append] at distinct
      obtain ⟨hrecords, -, hfresh⟩ := distinct
      rw [List.map_append, goThrough_append]
      refine (ih hearlier hrecords).step ?_ ?_ ?_ hearlier
        (simple record (List.mem_append_right _ List.mem_cons_self)) hname ?_
      · exact (Extends.goThrough _ _).registry.index_eq
      · exact (BindsOnce.start options index).goThrough _
      · exact (GivesAway.start _).foldl options _
      · intro hwritten
        exact hfresh _ hwritten _ (by simp [hname]) rfl

end BindingRun

/-! ## All rounds -/

namespace TranslationUnit

variable {units : List TranslationUnit} {record node : Declaration} {name : String}
  {kind : SymbolKind} {limit : Nat}

theorem HoldsSimpleRecords.isSimpleRecord (holds : HoldsSimpleRecords units)
    (h : record ∈ records units) : record.IsSimpleRecord := by
  obtain ⟨hnode, hstruct⟩ := List.mem_filter.mp h
  rcases holds record hnode with hfield | hsimple
  · simp [hfield] at hstruct
  · exact hsimple

/-- What a run comes to are the structures. -/
theorem HoldsSimpleRecords.bindingKind?_eq_some_iff (holds : HoldsSimpleRecords units)
    (alone : ∀ record ∈ records units, record.isAnonymousMember = false)
    (hnode : node ∈ units.flatMap (·.declarations)) :
    node.bindingKind? = some kind ↔ node.kind = .struct ∧ kind = .struct := by
  rcases holds node hnode with hfield | hsimple
  · simp [Declaration.bindingKind?, hfield]
  · have hmem : node ∈ records units := List.mem_filter.mpr ⟨hnode, by simp [hsimple.struct]⟩
    simp [Declaration.bindingKind?, hsimple.inMainFile, hsimple.struct, hsimple.isDefinition,
      hsimple.named, alone node hmem, eq_comm (a := kind)]

theorem HoldsSimpleRecords.agenda_eq (holds : HoldsSimpleRecords units)
    (alone : ∀ record ∈ records units, record.isAnonymousMember = false) :
    agenda units = (records units).map fun record => (.struct, record) := by
  have hstruct : ∀ work ∈ agenda units, work.1 = .struct := by
    rintro ⟨kind, node⟩ hwork
    obtain ⟨parsed, hparsed, hnode, hkind⟩ := mem_agenda_iff.mp hwork
    exact ((holds.bindingKind?_eq_some_iff alone
      (List.mem_flatMap.mpr ⟨parsed, hparsed, hnode⟩)).mp hkind).2
  rw [← List.filter_eq_self.mpr fun work hwork => decide_eq_true (hstruct work hwork),
    filter_agenda, records]
  refine congrArg _ (List.filter_congr fun node hnode => ?_)
  simp [holds.bindingKind?_eq_some_iff alone hnode]

/-- Structures that are chosen by their names. -/
theorem map_reportKey_filter {records : List Declaration} {keep : Declaration → Prop}
    {keepName : String → Prop} [DecidablePred keep] [DecidablePred keepName]
    (named : ∀ record ∈ records, record.typeName?.isSome = true)
    (h : ∀ record ∈ records, ∀ name, record.typeName? = some name →
      (keep record ↔ keepName name)) :
    (records.filter fun record => keep record).map (·.reportKey .struct) =
      ((records.filterMap (·.typeName?)).filter fun name => keepName name).map
        fun name => (.struct, name) := by
  induction records with
  | nil => rfl
  | cons record records ih =>
      obtain ⟨name, hname⟩ := Option.isSome_iff_exists.mp (named record List.mem_cons_self)
      have hrest := ih (fun other hother => named other (List.mem_cons_of_mem _ hother))
        fun other hother => h other (List.mem_cons_of_mem _ hother)
      have hkeep := h record List.mem_cons_self name hname
      rw [List.filterMap_cons_some hname, List.filter_cons, List.filter_cons]
      by_cases hkept : keep record
      · simp [hkept, hkeep.mp hkept, hrest, Declaration.reportKey_struct hname]
      · simp [hkept, mt hkeep.mpr hkept, hrest]

end TranslationUnit

namespace BindingOptions

open TranslationUnit

variable {options : BindingOptions} {units : List TranslationUnit} {index : SymbolIndex}
  {name : String}

variable (holds : HoldsSimpleRecords units)
  (alone : ∀ record ∈ records units, record.isAnonymousMember = false)
  (distinct : ((recordNames units).map Identifier.escape).Nodup)

include holds alone distinct

theorem bindsReady_run (options : BindingOptions) (index : SymbolIndex) :
    BindingRun.BindsReady index (records units)
      ((options.registry index).run options units) := by
  rw [Registry.run, holds.agenda_eq alone]
  exact BindingRun.bindsReady_goThrough options index (fun _ => holds.isSimpleRecord) distinct

/-- A round discovers the records that are ready. -/
theorem mem_records_discover_iff :
    name ∈ (options.discover units index).records ↔
      ∃ record ∈ records units, record.typeName? = some name ∧ record.IsReady index := by
  have hrecords := (options.accounts_run units index).mem_names_iff_binds .struct (by decide)
  change ∀ name, name ∈ (options.discover units index).records ↔ _ at hrecords
  rw [hrecords, BindingRun.binds_iff_mem,
    (bindsReady_run holds alone distinct options index).bound, List.mem_map]
  constructor
  · rintro ⟨record, hrecord, hkey⟩
    obtain ⟨hmem, hready⟩ := List.mem_filter.mp hrecord
    obtain ⟨other, hother⟩ := Option.isSome_iff_exists.mp (holds.isSimpleRecord hmem).named
    rw [Declaration.reportKey_struct hother] at hkey
    cases hkey
    exact ⟨record, hmem, hother, of_decide_eq_true hready⟩
  · rintro ⟨record, hmem, hname, hready⟩
    exact ⟨record, List.mem_filter.mpr ⟨hmem, decide_eq_true hready⟩,
      Declaration.reportKey_struct hname⟩

/-- So many rounds reach the records up to such a depth. -/
theorem mem_records_iterate_iff (rounds : Nat) :
    name ∈ ((options.discover units)^[rounds] ∅).records ↔ DepthAtMost units rounds name := by
  induction rounds generalizing name with
  | zero => exact iff_of_false (NameSet.not_mem_empty name) not_depthAtMost_zero
  | succ rounds ih =>
      rw [Function.iterate_succ_apply', mem_records_discover_iff holds alone distinct,
        depthAtMost_succ_iff]
      simp only [Declaration.IsReady, ih]

theorem mem_records_buildIndex_iff :
    name ∈ (options.buildIndex units).records ↔ DepthAtMost units maxRounds name := by
  rw [buildIndex, settle_eq_iterate, mem_records_iterate_iff holds alone distinct]

omit holds alone distinct

/-- The records of depth up to a limit are bound, in the order of the headers, and all others are
reported. -/
def BindsByDepth (options : BindingOptions) (units : List TranslationUnit) (limit : Nat) : Prop :=
  (options.generate units).symbols.map (fun symbol => (symbol.kind, symbol.nativeName)) =
      ((recordNames units).filter fun name => DepthAtMost units limit name).map
        (fun name => (.struct, name)) ∧
    (options.generate units).skipped.map (·.key) =
      ((recordNames units).filter fun name => ¬ DepthAtMost units limit name).map
        fun name => (.struct, name)

instance (limit : Nat) : Decidable (options.BindsByDepth units limit) :=
  inferInstanceAs (Decidable (_ ∧ _))

/-- The records of depth up to 33 are bound and all others are reported: 32 rounds reach as many
levels, and the last run adds one. -/
theorem bindsByDepth (options : BindingOptions) (units : List TranslationUnit)
    (holds : HoldsSimpleRecords units)
    (alone : ∀ record ∈ records units, record.isAnonymousMember = false)
    (distinct : ((recordNames units).map Identifier.escape).Nodup) :
    options.BindsByDepth units 33 := by
  have hready := bindsReady_run holds alone distinct options (options.buildIndex units)
  have hnamed : ∀ record ∈ records units, record.typeName?.isSome = true :=
    fun record hrecord => (holds.isSimpleRecord hrecord).named
  have hdepth : ∀ record ∈ records units, ∀ name, record.typeName? = some name →
      (record.IsReady (options.buildIndex units) ↔ DepthAtMost units 33 name) := by
    intro record hrecord name hname
    simp only [Declaration.IsReady, mem_records_buildIndex_iff holds alone distinct]
    rw [depthAtMost_succ_iff]
    constructor
    · exact fun hheld => ⟨record, hrecord, hname, hheld⟩
    · rintro ⟨other, hother, hname', hheld⟩
      cases record_unique (distinct.of_map _) hrecord hother hname hname'
      exact hheld
  have hsymbols : (options.finalRun units).symbols =
      (options.finalRun units).groups.map (·.main) := by
    rw [BindingRun.symbols, List.map_eq_flatMap]
    exact List.flatMap_congr fun group hgroup => hready.symbols_eq group hgroup
  constructor
  · rw [recordNames, ← map_reportKey_filter hnamed hdepth, ← hready.bound, generate, hsymbols,
      List.map_map]
    rfl
  · rw [recordNames, ← map_reportKey_filter hnamed fun record hrecord name hname =>
      not_congr (hdepth record hrecord name hname)]
    exact hready.skipped

/-- A structure that holds the one of the level below it. The lowest one points to the highest. -/
def level : Nat → Declaration
  | 0 => .ofStruct "L0" [.ofField "x" .int, .ofField "top" (.pointer (.record "L33"))]
  | below + 1 =>
    .ofStruct ("L" ++ toString (below + 1)) [.ofField "base" (.record ("L" ++ toString below))]

/-- As many levels as there are rounds and two more, a structure that holds one that is not
declared, and a structure that holds itself. -/
def tower : TranslationUnit :=
  .ofDeclarations "tower.h" ((List.range 34).map level ++ [
    .ofStruct "Lost" [.ofField "gone" (.record "Gone")],
    .ofStruct "Loop" [.ofField "again" (.record "Loop")]])

/-- The highest level is out of reach. -/
theorem bindsByDepth_tower :
    HoldsSimpleRecords [tower] ∧
      (∀ record ∈ records [tower], record.isAnonymousMember = false) ∧
      ((recordNames [tower]).map Identifier.escape).Nodup ∧
      ((recordNames [tower]).filter fun name => ¬ DepthAtMost [tower] 33 name) =
        ["L33", "Lost", "Loop"] ∧
      sample.BindsByDepth [tower] 33 := by
  have holds : HoldsSimpleRecords [tower] := by decide +kernel
  have alone : ∀ record ∈ records [tower], record.isAnonymousMember = false := by decide +kernel
  have distinct : ((recordNames [tower]).map Identifier.escape).Nodup := by decide +kernel
  exact ⟨holds, alone, distinct, by decide +kernel,
    bindsByDepth sample [tower] holds alone distinct⟩

/-- Two structures with different names that are written in the same way. -/
def keywordNamesakes : List TranslationUnit :=
  [.ofDeclarations "namesakes.h" [
    .ofStruct "class" [.ofField "x" .int], .ofStruct "@class" [.ofField "x" .int]]]

/-- A structure that is marked as an anonymous member of another one. -/
def setApart : List TranslationUnit :=
  [.ofDeclarations "apart.h" [
    { Declaration.ofStruct "A" [.ofField "x" .int] with isAnonymousMember := true }]]

/-- Of two structures that are written in the same way one is reported whatever its depth, and a
structure that is marked as an anonymous member is neither bound nor reported. -/
theorem not_bindsByDepth :
    (HoldsSimpleRecords keywordNamesakes ∧ (recordNames keywordNamesakes).Nodup ∧
      ¬ sample.BindsByDepth keywordNamesakes 33) ∧
    HoldsSimpleRecords setApart ∧ (recordNames setApart).Nodup ∧
      ¬ sample.BindsByDepth setApart 33 := by
  refine ⟨⟨?_, ?_, ?_⟩, ?_, ?_, ?_⟩ <;> decide +kernel

end BindingOptions

end Interop
