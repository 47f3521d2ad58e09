import Interop.Proofs.Binding.Answers
import Interop.Proofs.Binding.Claims
import Interop.Proofs.Binding.Growth
import Interop.Proofs.Native.Walking
import Mathlib.Data.List.Induction

/-!
# The order of the declarations

A run that finds no name taken binds just the declarations that can be lowered and reports just the
ones that cannot (`BindingRun.BindsAll`), and what a declaration is lowered to depends on the index
only. So headers in another order, with their declarations in another order, come to the same
groups and reports in another order, and to the same index (`BindingOptions.order_irrelevant`).

For this the headers in the other order must not bring about a collision either. That no names
collide is first put as a property of the groups that the declarations are lowered to
(`BindingOptions.NamesApart`), and these groups do not depend on the order.
-/

namespace Interop

/-! ## Reordered headers -/

namespace Declaration

theorem walkAll_perm {siblings others : List Declaration} (h : siblings.Perm others) :
    (walkAll siblings).Perm (walkAll others) := by
  rw [walkAll_eq_flatMap, walkAll_eq_flatMap]
  exact h.flatMap_right _

end Declaration

namespace TranslationUnit

/-- The second header has the top-level declarations of the first one in another order. -/
def Reorders (parsed other : TranslationUnit) : Prop :=
  ∃ children, parsed.root.children.Perm children ∧
    other = { parsed with root := { parsed.root with children } }

/-- The second headers are the first ones in another order, each with its top-level declarations in
another order. -/
def ReordersAll (units others : List TranslationUnit) : Prop :=
  ∃ middle, units.Perm middle ∧ List.Forall₂ Reorders middle others

variable {parsed other : TranslationUnit} {units others : List TranslationUnit}

theorem Reorders.declarations_perm (h : Reorders parsed other) :
    parsed.declarations.Perm other.declarations := by
  obtain ⟨children, hperm, rfl⟩ := h
  rw [declarations, declarations, Declaration.walk_eq, Declaration.walk_eq]
  exact Declaration.walkAll_perm hperm

/-- Reordered headers give a run the same work in another order. -/
theorem ReordersAll.agenda_perm (h : ReordersAll units others) :
    (agenda units).Perm (agenda others) := by
  obtain ⟨middle, hperm, hforall⟩ := h
  refine List.Perm.flatMap_left _ fun kind _ => (hperm.flatMap_right _).trans ?_
  clear hperm
  induction hforall with
  | nil => exact .refl _
  | cons head _ ih =>
      rw [List.flatMap_cons, List.flatMap_cons]
      exact ((head.declarations_perm.filter _).map _).append ih

/-- The kind and the native name of a declaration, if it has a name; `keys` collects these. -/
def key? (item : SymbolKind × Declaration) : Option (SymbolKind × String) :=
  (item.2.nativeName? item.1).map fun native => (item.1, native)

end TranslationUnit

open TranslationUnit (key?)

/-! ## What the declarations are lowered to -/

/-- The names that groups declare in a scope. -/
def SymbolGroup.declaredIn (scope : NameScope) (groups : List SymbolGroup) : List String :=
  (groups.filter fun group => group.main.kind.scope = scope).flatMap (·.declaredNames)

namespace BindingOptions

open SymbolGroup (declaredIn)

/-- The group that a declaration is lowered to with an index. -/
def group? (options : BindingOptions) (index : SymbolIndex) (item : SymbolKind × Declaration) :
    Option SymbolGroup :=
  match (options.mapper index).lower options.naming item.1 item.2 with
  | .ok answer => answer
  | .error _ => none

/-- The report that a declaration cannot be lowered with an index. -/
def failure? (options : BindingOptions) (index : SymbolIndex) (item : SymbolKind × Declaration) :
    Option SkippedSymbol :=
  match (options.mapper index).lower options.naming item.1 item.2 with
  | .ok _ => none
  | .error error => some (item.2.skipped item.1 error)

/-- No declaration declares a name twice, or one that another one declares in the same scope, or the
name of the class that holds the functions. -/
structure NamesApart (options : BindingOptions) (index : SymbolIndex)
    (work : List (SymbolKind × Declaration)) : Prop where
  nodup : ∀ scope, (declaredIn scope (work.filterMap (options.group? index))).Nodup
  free : ∀ scope, ∀ name ∈ declaredIn scope (work.filterMap (options.group? index)),
    name ∉ (options.registry index).claimed scope

variable {options : BindingOptions} {index : SymbolIndex}
  {work others before : List (SymbolKind × Declaration)} {kind : SymbolKind}
  {declaration : Declaration} {group : SymbolGroup}

theorem group?_eq_some_iff : options.group? index (kind, declaration) = some group ↔
    (options.mapper index).Lowers options.naming kind declaration group := by
  rw [← Mapper.lower_eq_ok_iff, group?]
  cases (options.mapper index).lower options.naming kind declaration <;> simp

theorem NamesApart.perm (h : NamesApart options index work) (hperm : work.Perm others) :
    NamesApart options index others := by
  have hdeclared : ∀ scope, (declaredIn scope (work.filterMap (options.group? index))).Perm
      (declaredIn scope (others.filterMap (options.group? index))) :=
    fun scope => ((hperm.filterMap _).filter _).flatMap_right _
  constructor
  · exact fun scope => (hdeclared scope).nodup_iff.mp (h.nodup scope)
  · exact fun scope name hname => h.free scope name ((hdeclared scope).mem_iff.mpr hname)

end BindingOptions

/-! ## Runs without collisions -/

namespace BindingRun

variable {options : BindingOptions} {index : SymbolIndex}
  {work : List (SymbolKind × Declaration)} {run : BindingRun} {kind : SymbolKind}
  {declaration : Declaration}

/-- A run that has bound all that can be lowered, in the order of its work, and has reported all
that cannot. -/
structure BindsAll (options : BindingOptions) (index : SymbolIndex)
    (work : List (SymbolKind × Declaration)) (run : BindingRun) : Prop where
  groups_eq : run.groups = work.filterMap (options.group? index)
  mem_skipped : ∀ entry, entry ∈ run.skipped ↔ entry ∈ work.filterMap (options.failure? index)

/-- The groups to which declarations are lowered find their names free. -/
def FindsFree (options : BindingOptions) (run : BindingRun) (kind : SymbolKind)
    (declaration : Declaration) : Prop :=
  ∀ group, (options.mapper run.registry.index).Lowers options.naming kind declaration group →
    run.registry.firstConflict? kind.scope group.declaredNames = none

theorem BindsAll.step (h : BindsAll options index work run) (hindex : run.registry.index = index)
    (unbound : run.registry.isBound kind declaration = false)
    (free : run.FindsFree options kind declaration) :
    BindsAll options index (work ++ [(kind, declaration)])
      (run.step options kind declaration) := by
  have hprocess : run.registry.process options kind declaration = _ :=
    Registry.process_of_not_isBound unbound
  cases hlower : (options.mapper index).lower options.naming kind declaration with
  | error error =>
      rw [hindex, hlower] at hprocess
      rw [step_of_process_eq_error hprocess]
      constructor
      · simp [h.groups_eq, BindingOptions.group?, hlower]
      · intro entry
        rw [mem_skipped_skip, h.mem_skipped]
        simp [BindingOptions.failure?, hlower, or_comm]
  | ok answer =>
      have hfailure : options.failure? index (kind, declaration) = none := by
        simp [BindingOptions.failure?, hlower]
      cases answer with
      | none =>
          rw [hindex, hlower] at hprocess
          rw [step_of_process_eq_none hprocess]
          constructor
          · simp [h.groups_eq, BindingOptions.group?, hlower]
          · simp [h.mem_skipped, hfailure]
      | some group =>
          have hfree := free group (hindex ▸ Mapper.lower_eq_ok_iff.mp hlower)
          rw [hindex, hlower] at hprocess
          simp only [hfree] at hprocess
          rw [step_of_process_eq_some hprocess]
          constructor
          · simp [h.groups_eq, BindingOptions.group?, hlower]
          · simp [h.mem_skipped, hfailure]

/-- A declaration with a name of its own is not bound before the run comes to it. -/
theorem Accounts.isBound_eq_false (h : Accounts options index work run)
    (distinct : ((work ++ [(kind, declaration)]).filterMap key?).Nodup) :
    run.registry.isBound kind declaration = false := by
  rw [← Bool.not_eq_true]
  intro hbound
  obtain ⟨group, hgroup, rfl, hnative⟩ := h.isBound_eq_true hbound
  obtain ⟨kind, earlier, hwork, hlowers⟩ := h.lowered group hgroup
  cases hlowers.kind_main
  rw [List.filterMap_append, List.nodup_append] at distinct
  refine distinct.2.2 (group.main.kind, group.main.nativeName) ?_ _ ?_ rfl
  · exact List.mem_filterMap.mpr ⟨_, hwork, by simp [key?, hlowers.nativeName_eq]⟩
  · simp [key?, hnative]

theorem accounts_goThrough (options : BindingOptions) (index : SymbolIndex)
    (work : List (SymbolKind × Declaration)) :
    Accounts options index work ((start (options.registry index)).goThrough options work) :=
  (accounts_start options index).foldl work

/-- A run binds all that can be lowered if it finds the names of every group free when it comes
to its declaration. -/
theorem bindsAll_goThrough (distinct : (work.filterMap key?).Nodup)
    (free : ∀ before kind declaration, before ++ [(kind, declaration)] <+: work →
      BindsAll options index before ((start (options.registry index)).goThrough options before) →
      ((start (options.registry index)).goThrough options before).FindsFree options kind
        declaration) :
    BindsAll options index work ((start (options.registry index)).goThrough options work) := by
  induction work using List.reverseRecOn with
  | nil => exact ⟨rfl, fun entry => Iff.rfl⟩
  | append_singleton work item ih =>
      obtain ⟨kind, declaration⟩ := item
      have haccounts := accounts_goThrough options index work
      have hearlier : (work.filterMap key?).Nodup :=
        distinct.sublist ((List.sublist_append_left work _).filterMap _)
      have hbinds := ih hearlier fun before kind declaration hbefore =>
        free before kind declaration (hbefore.trans (List.prefix_append work _))
      rw [goThrough_append, goThrough_cons, goThrough_nil]
      exact hbinds.step haccounts.index_eq (haccounts.isBound_eq_false distinct)
        (free work kind declaration List.prefix_rfl hbinds)

/-- What a run has reported stays reported. -/
theorem skipped_subset_goThrough (run : BindingRun) (options : BindingOptions)
    (work : List (SymbolKind × Declaration)) :
    run.skipped ⊆ (run.goThrough options work).skipped := by
  induction work generalizing run with
  | nil => exact List.Subset.refl _
  | cons item work ih =>
      obtain ⟨kind, declaration⟩ := item
      rw [goThrough_cons]
      refine List.Subset.trans (fun entry hentry => ?_) (ih _)
      have hadvances := advances_step options run kind declaration
      generalize run.step options kind declaration = after at hadvances
      cases hadvances with
      | bound | unneeded | binds => exact hentry
      | fails | collides => exact mem_skipped_skip.mpr (.inr hentry)

/-- A run that reports no collision binds all that can be lowered. -/
theorem bindsAll_of_not_reported (distinct : (work.filterMap key?).Nodup)
    (quiet : ∀ entry ∈ ((start (options.registry index)).goThrough options work).skipped,
      ∀ name, entry.reason ≠ (MappingError.nameCollision name).message) :
    BindsAll options index work ((start (options.registry index)).goThrough options work) := by
  refine bindsAll_goThrough distinct fun before kind declaration hbefore _ group hlowers => ?_
  rw [← Option.not_isSome_iff_eq_none]
  intro htaken
  obtain ⟨name, hconflict⟩ := Option.isSome_iff_exists.mp htaken
  obtain ⟨after, rfl⟩ := hbefore
  have hearlier : ((before ++ [(kind, declaration)]).filterMap key?).Nodup :=
    distinct.sublist ((List.sublist_append_left _ after).filterMap _)
  have herror := Registry.process_eq_error_iff.mpr
    ⟨(accounts_goThrough options index before).isBound_eq_false hearlier,
      .inr ⟨group, name, hlowers, hconflict, rfl⟩⟩
  refine quiet (declaration.skipped kind (.nameCollision name)) ?_ name rfl
  rw [goThrough_append]
  refine skipped_subset_goThrough _ options after ?_
  rw [goThrough_append, goThrough_cons, goThrough_nil, step_of_process_eq_error herror]
  exact mem_skipped_skip.mpr (.inl rfl)

/-- The names of all that can be lowered are apart if a run binds it all. -/
theorem BindsAll.namesApart (h : BindsAll options index work run)
    (haccounts : Accounts options index work run)
    (hgives : GivesAway (options.registry index) run) : options.NamesApart index work := by
  have hdeclared : ∀ scope, run.declared scope =
      SymbolGroup.declaredIn scope (work.filterMap (options.group? index)) := by
    intro scope
    rw [declared, h.groups_eq, SymbolGroup.declaredIn]
  constructor
  · exact fun scope => hdeclared scope ▸ haccounts.distinct scope
  · exact fun scope => hdeclared scope ▸ hgives.fresh scope

/-- A run binds all that can be lowered if the names of it are apart. -/
theorem bindsAll_of_namesApart (distinct : (work.filterMap key?).Nodup)
    (apart : options.NamesApart index work) :
    BindsAll options index work ((start (options.registry index)).goThrough options work) := by
  refine bindsAll_goThrough distinct fun before kind declaration hbefore hbinds group hlowers => ?_
  obtain ⟨after, rfl⟩ := hbefore
  have hgives : GivesAway (options.registry index)
      ((start (options.registry index)).goThrough options before) :=
    (GivesAway.start _).foldl options before
  have hindex := (accounts_goThrough options index before).index_eq
  generalize (start (options.registry index)).goThrough options before = run at *
  have hgroup : options.group? index (kind, declaration) = some group :=
    BindingOptions.group?_eq_some_iff.mpr (hindex ▸ hlowers)
  have hdeclared : SymbolGroup.declaredIn kind.scope
      ((before ++ [(kind, declaration)] ++ after).filterMap (options.group? index)) =
      run.declared kind.scope ++ (group.declaredNames ++
        SymbolGroup.declaredIn kind.scope (after.filterMap (options.group? index))) := by
    simp [SymbolGroup.declaredIn, declared, hbinds.groups_eq, hgroup, hlowers.kind_main]
  have hnodup := apart.nodup kind.scope
  have hfree := apart.free kind.scope
  rw [hdeclared] at hnodup hfree
  rw [Registry.firstConflict?, NameSet.firstTaken?_eq_none_iff]
  obtain ⟨-, hown, hearlier⟩ := List.nodup_append.mp hnodup
  refine ⟨(List.nodup_append.mp hown).1, fun name hname hclaimed => ?_⟩
  have hlast : name ∈ group.declaredNames ++
      SymbolGroup.declaredIn kind.scope (after.filterMap (options.group? index)) :=
    List.mem_append_left _ hname
  -- a claimed name was given away at the start or is declared by a group bound before
  cases (hgives.mem_claimed _ _).mp hclaimed with
  | inl hstart => exact hfree name (List.mem_append_right _ hlast) hstart
  | inr hbound => exact hearlier name hbound name hlast rfl

end BindingRun

/-! ## Other orders -/

namespace SymbolIndex

/-- An index is what it lists of each kind, and what of it holds no reference. -/
theorem ext_names {first second : SymbolIndex}
    (names : ∀ kind name, name ∈ first.names kind ↔ name ∈ second.names kind)
    (blittable : ∀ name, name ∈ first.blittable ↔ name ∈ second.blittable) : first = second := by
  obtain ⟨records, enums, aliases, plain⟩ := first
  have hrecords := NameSet.ext (names .struct)
  have henums := NameSet.ext (names .enumeration)
  have haliases := NameSet.ext (names .typedef)
  have hplain := NameSet.ext blittable
  simp only [SymbolIndex.names] at hrecords henums haliases hplain
  subst hrecords henums haliases hplain
  rfl

end SymbolIndex

namespace BindingRun

variable {options : BindingOptions} {index : SymbolIndex}
  {work others : List (SymbolKind × Declaration)} {first second : BindingRun}

/-- Runs that have bound the same groups have discovered the same. -/
theorem Accounts.discovered_eq_of_perm (h : Accounts options index work first)
    (h' : Accounts options index others second) (hgroups : first.groups.Perm second.groups) :
    first.registry.discovered = second.registry.discovered := by
  refine SymbolIndex.ext_names (fun kind name => ?_) fun name => ?_
  · simp only [h.mem_names, h'.mem_names, hgroups.mem_iff]
  · simp only [h.mem_blittable, h'.mem_blittable, hgroups.mem_iff]

end BindingRun

namespace BindingOptions

open TranslationUnit

variable {options : BindingOptions} {units others : List TranslationUnit} {index : SymbolIndex}

/-- A run that reports no collision comes to the same groups and reports in any order. -/
theorem run_perm (distinct : (keys units).Nodup) (free : ¬ options.ReportsCollision units index)
    (reorders : ReordersAll units others) :
    ((options.registry index).run options others).groups.Perm
        ((options.registry index).run options units).groups ∧
      ((options.registry index).run options others).skipped.Perm
        ((options.registry index).run options units).skipped := by
  have hperm := reorders.agenda_perm
  have hbinds : BindingRun.BindsAll options index (agenda units)
      ((options.registry index).run options units) :=
    BindingRun.bindsAll_of_not_reported distinct fun entry hentry name hreason =>
      free ⟨entry, hentry, name, hreason⟩
  -- nothing is known of collisions in the other order, so that names are apart is carried over
  have hother : BindingRun.BindsAll options index (agenda others)
      ((options.registry index).run options others) :=
    BindingRun.bindsAll_of_namesApart ((hperm.filterMap _).nodup_iff.mp distinct)
      ((hbinds.namesApart (options.accounts_run units index)
        (options.givesAway_run units index)).perm hperm)
  constructor
  · rw [hbinds.groups_eq, hother.groups_eq]
    exact (hperm.filterMap _).symm
  · refine (List.perm_ext_iff_of_nodup (options.reports_run others index).nodup
      (options.reports_run units index).nodup).mpr fun entry => ?_
    rw [hother.mem_skipped, hbinds.mem_skipped]
    exact (hperm.filterMap _).mem_iff.symm

theorem discover_of_reorders (distinct : (keys units).Nodup)
    (free : ¬ options.ReportsCollision units index) (reorders : ReordersAll units others) :
    options.discover others index = options.discover units index :=
  (options.accounts_run others index).discovered_eq_of_perm (options.accounts_run units index)
    (run_perm distinct free reorders).1

/-- The rounds over reordered headers consult the same indices. -/
theorem settle_of_reorders (distinct : (keys units).Nodup) (reorders : ReordersAll units others)
    (count : Nat) (free : ∀ other ∈ options.consulted units count index,
      ¬ options.ReportsCollision units other) :
    options.settle others count index = options.settle units count index := by
  induction count generalizing index with
  | zero => rfl
  | succ count ih =>
      rw [consulted] at free
      have hdiscover := discover_of_reorders distinct (free index List.mem_cons_self) reorders
      rw [settle, settle, hdiscover]
      by_cases hsettled : options.discover units index = index
      · simp only [if_pos hsettled]
      · simp only [if_neg hsettled] at free ⊢
        exact ih fun other hother => free other (List.mem_cons_of_mem _ hother)

/-- The order of the headers and of their top-level declarations does not matter to the index, and
it matters to the bound groups and to the reports for their order only, when no two declarations
share kind and name and no run finds a name taken. -/
theorem order_irrelevant (options : BindingOptions) (distinct : (keys units).Nodup)
    (free : ∀ index ∈ options.rounds units ++ [options.buildIndex units],
      ¬ options.ReportsCollision units index)
    (reorders : ReordersAll units others) :
    options.buildIndex others = options.buildIndex units ∧
      (options.finalRun others).groups.Perm (options.finalRun units).groups ∧
      (options.generate others).symbols = (options.finalRun others).groups.flatMap (·.symbols) ∧
      (options.generate units).symbols = (options.finalRun units).groups.flatMap (·.symbols) ∧
      (options.generate others).skipped.Perm (options.generate units).skipped := by
  have hindex : options.buildIndex others = options.buildIndex units :=
    settle_of_reorders distinct reorders maxRounds fun index hindex =>
      free index (List.mem_append_left _ hindex)
  obtain ⟨hgroups, hskipped⟩ := run_perm distinct
    (free _ (List.mem_append_right _ List.mem_cons_self)) reorders
  refine ⟨hindex, ?_, rfl, rfl, ?_⟩
  · rw [finalRun, hindex]
    exact hgroups
  · rw [generate, finalRun, hindex]
    exact hskipped

/-- Two headers, the first of which uses what the second declares. -/
def ordered : List TranslationUnit :=
  [.ofDeclarations "uses.h" [
    .ofStruct "Outer" [.ofField "inner" (.record "Inner"), .ofField "done" .callback],
    .ofFunction "use" [("outer", .record "Outer")],
    .ofStruct "Flags" [{ Declaration.ofField "bits" .int with bitWidth := some 3 }]],
  .ofDeclarations "declares.h" [
    .ofStruct "Inner" [.ofField "x" .int],
    .ofStruct "Rest" [.ofField "unknown" (.record "Missing")]]]

/-- The same headers the other way around. -/
def reordered : List TranslationUnit :=
  [.ofDeclarations "declares.h" [
    .ofStruct "Rest" [.ofField "unknown" (.record "Missing")],
    .ofStruct "Inner" [.ofField "x" .int]],
  .ofDeclarations "uses.h" [
    .ofStruct "Flags" [{ Declaration.ofField "bits" .int with bitWidth := some 3 }],
    .ofFunction "use" [("outer", .record "Outer")],
    .ofStruct "Outer" [.ofField "inner" (.record "Inner"), .ofField "done" .callback]]]

theorem order_irrelevant_reordered :
    (sample.finalRun ordered).groups.map (·.main.emittedName) = ["Outer", "Inner", "use"] ∧
      (sample.finalRun reordered).groups.map (·.main.emittedName) = ["Inner", "Outer", "use"] ∧
      (sample.generate ordered).skipped.map (·.name) = ["Flags", "Rest"] ∧
      sample.buildIndex reordered = sample.buildIndex ordered ∧
      (sample.finalRun reordered).groups.Perm (sample.finalRun ordered).groups ∧
      (sample.generate reordered).skipped.Perm (sample.generate ordered).skipped := by
  have hskipped : ∀ index ∈ sample.rounds ordered ++ [sample.buildIndex ordered],
      ∀ entry ∈ ((sample.registry index).run sample ordered).skipped,
        ¬ "name ".toList <+: entry.reason.toList := by decide +kernel
  have reorders : ReordersAll ordered reordered :=
    ⟨ordered.reverse, (List.reverse_perm _).symm,
      .cons ⟨_, (List.reverse_perm _).symm, rfl⟩
        (.cons ⟨_, (List.reverse_perm _).symm, rfl⟩ .nil)⟩
  obtain ⟨hindex, hgroups, -, -, hreports⟩ := order_irrelevant sample (by decide +kernel)
    (fun index hindex => not_reportsCollision (hskipped index hindex)) reorders
  exact ⟨by decide +kernel, by decide +kernel, by decide +kernel, hindex, hgroups, hreports⟩

end BindingOptions

end Interop
