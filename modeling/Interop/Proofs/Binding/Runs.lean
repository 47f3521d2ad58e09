import Interop.Proofs.Binding.Steps
import Mathlib.Data.List.Nodup
import Mathlib.Data.List.Pairwise
import Mathlib.Data.List.Perm.Basic

/-!
# What a run has to show for its work

`BindingRun.Accounts` collects what holds of a run after it has gone through some declarations.
It holds at the start, every step preserves it, and so it holds of the whole run
(`BindingOptions.accounts_run`).
-/

namespace Interop

namespace BindingRun

/-- The names that the groups of a run declare in a scope. -/
def declared (run : BindingRun) (scope : NameScope) : List String :=
  (run.groups.filter fun group => group.main.kind.scope = scope).flatMap (·.declaredNames)

/-- A run with an index after some declarations. -/
structure Accounts (options : BindingOptions) (index : SymbolIndex)
    (work : List (SymbolKind × Declaration)) (run : BindingRun) : Prop where
  index_eq : run.registry.index = index
  /-- Every group is what a declaration of the work becomes. -/
  lowered : ∀ group ∈ run.groups, ∃ kind declaration, (kind, declaration) ∈ work ∧
    (options.mapper index).Lowers options.naming kind declaration group
  distinct : ∀ scope, (run.declared scope).Nodup
  claimed : ∀ scope, ∀ name ∈ run.declared scope, name ∈ run.registry.claimed scope
  mem_names : ∀ kind name, name ∈ run.registry.discovered.names kind ↔ kind ≠ .function ∧
    ∃ group ∈ run.groups, group.main.kind = kind ∧ group.main.nativeName = name
  mem_blittable : ∀ name, name ∈ run.registry.discovered.blittable ↔
    ∃ group ∈ run.groups, (options.mapper index).holdsNoReference group = true ∧
      group.main.nativeName = name
  emitted : ∀ kind native, run.registry.isEmitted kind native = true →
    ∃ group ∈ run.groups, group.main.kind = kind ∧ group.main.nativeName = native
  /-- A declaration that can be lowered is bound, or one that shares its name is, or a name of
  its group was taken. -/
  served : ∀ kind declaration, (kind, declaration) ∈ work →
    ∀ group, (options.mapper index).Lowers options.naming kind declaration group →
      (∃ other ∈ run.groups, other.main.kind = kind ∧
        other.main.nativeName = group.main.nativeName) ∨
      ∃ name, declaration.skipped kind (.nameCollision name) ∈ run.skipped

variable {options : BindingOptions} {index : SymbolIndex}
  {work : List (SymbolKind × Declaration)} {run : BindingRun} {kind : SymbolKind}
  {declaration : Declaration} {registry : Registry} {group : SymbolGroup}

theorem declared_append {scope : NameScope} :
    ({ run with registry, groups := run.groups ++ [group] } : BindingRun).declared scope =
      run.declared scope ++ if group.main.kind.scope = scope then group.declaredNames else [] := by
  simp only [declared, List.filter_append, List.flatMap_append]
  split <;> simp_all

/-- A run before its first declaration. -/
theorem accounts_start (options : BindingOptions) (index : SymbolIndex) :
    Accounts options index [] (.start (options.registry index)) where
  index_eq := rfl
  lowered := nofun
  distinct _ := List.nodup_nil
  claimed := nofun
  mem_names kind name := by
    cases kind <;> simp [start, BindingOptions.registry, SymbolIndex.names, Registry.claim,
      Registry.ofIndex, EmptyCollection.emptyCollection, SymbolIndex.empty, NameSet.empty,
      NameSet.mem_def]
  mem_blittable name := by
    simp [start, BindingOptions.registry, Registry.claim, Registry.ofIndex,
      EmptyCollection.emptyCollection, SymbolIndex.empty, NameSet.empty, NameSet.mem_def]
  emitted := nofun
  served := nofun

namespace Accounts

theorem isBound_eq_true (h : Accounts options index work run)
    (hbound : run.registry.isBound kind declaration = true) :
    ∃ group ∈ run.groups, group.main.kind = kind ∧
      declaration.nativeName? kind = some group.main.nativeName := by
  unfold Registry.isBound at hbound
  split at hbound
  next native hnative =>
    obtain ⟨group, hgroup, hkind, rfl⟩ := h.emitted kind native hbound
    exact ⟨group, hgroup, hkind, hnative⟩
  next => cases hbound

/-- A declaration that changes nothing of what is bound is accounted for once there is an answer
for it. -/
theorem next (h : Accounts options index work run) {after : BindingRun}
    (registry_eq : after.registry = run.registry) (groups_eq : after.groups = run.groups)
    (skipped : ∀ entry ∈ run.skipped, entry ∈ after.skipped)
    (answer : ∀ group, (options.mapper index).Lowers options.naming kind declaration group →
      (∃ other ∈ run.groups, other.main.kind = kind ∧
        other.main.nativeName = group.main.nativeName) ∨
      ∃ name, declaration.skipped kind (.nameCollision name) ∈ after.skipped) :
    Accounts options index (work ++ [(kind, declaration)]) after := by
  have hdeclared : after.declared = run.declared := by
    funext scope
    rw [declared, declared, groups_eq]
  refine ⟨registry_eq ▸ h.index_eq, ?_, hdeclared ▸ h.distinct, ?_, ?_, ?_, ?_, ?_⟩
  · intro group hgroup
    obtain ⟨kind', declaration', hwork, hlowers⟩ := h.lowered group (groups_eq ▸ hgroup)
    exact ⟨kind', declaration', List.mem_append_left _ hwork, hlowers⟩
  · rw [hdeclared, registry_eq]
    exact h.claimed
  · rw [registry_eq, groups_eq]
    exact h.mem_names
  · rw [registry_eq, groups_eq]
    exact h.mem_blittable
  · rw [registry_eq, groups_eq]
    exact h.emitted
  · intro kind' declaration' hwork group hlowers
    rw [groups_eq]
    rcases List.mem_append.mp hwork with hearlier | hlast
    · rcases h.served kind' declaration' hearlier group hlowers with hbound | ⟨name, hname⟩
      · exact .inl hbound
      · exact .inr ⟨name, skipped _ hname⟩
    · cases List.mem_singleton.mp hlast
      exact answer group hlowers

/-- Binding a group accounts for its declaration. -/
theorem binds (h : Accounts options index work run)
    (lowers : (options.mapper index).Lowers options.naming kind declaration group)
    (free : group.declaredNames.Nodup ∧
      ∀ name ∈ group.declaredNames, name ∉ run.registry.claimed kind.scope) :
    Accounts options index (work ++ [(kind, declaration)])
      { run with
        registry := run.registry.bind kind group ((options.mapper index).holdsNoReference group)
        groups := run.groups ++ [group] } := by
  have hkind : group.main.kind = kind := lowers.kind_main
  refine ⟨by simp [h.index_eq], ?_, ?_, ?_, ?_, ?_, ?_, ?_⟩
  · intro other hother
    rcases List.mem_append.mp hother with hearlier | hlast
    · obtain ⟨kind', declaration', hwork, hlowers⟩ := h.lowered other hearlier
      exact ⟨kind', declaration', List.mem_append_left _ hwork, hlowers⟩
    · cases List.mem_singleton.mp hlast
      exact ⟨kind, declaration, List.mem_append_right _ List.mem_cons_self, lowers⟩
  · intro scope
    rw [declared_append, hkind]
    split
    next hscope =>
      subst hscope
      rw [List.nodup_append]
      refine ⟨h.distinct _, free.1, ?_⟩
      rintro name hname _ hin rfl
      exact free.2 name hin (h.claimed _ name hname)
    next => simpa using h.distinct scope
  · intro scope name hname
    rw [declared_append, hkind] at hname
    show name ∈ (run.registry.bind kind group _).claimed scope
    rw [Registry.mem_claimed_bind]
    rcases List.mem_append.mp hname with hearlier | hlast
    · exact .inr (h.claimed scope name hearlier)
    · split at hlast
      next hscope => exact .inl ⟨hscope.symm, hlast⟩
      next => simp at hlast
  · intro other name
    show name ∈ (run.registry.bind kind group _).discovered.names other ↔ _
    rw [lowers.mem_names_bind, h.mem_names]
    simp only [List.mem_append, List.mem_singleton]
    grind
  · intro name
    show name ∈ (run.registry.bind kind group _).discovered.blittable ↔ _
    rw [Registry.mem_blittable_bind, h.mem_blittable]
    simp only [List.mem_append, List.mem_singleton]
    grind
  · intro other native hemitted
    rw [Registry.isEmitted_bind] at hemitted
    rcases hemitted with ⟨rfl, rfl⟩ | hearlier
    · exact ⟨group, List.mem_append_right _ List.mem_cons_self, hkind, rfl⟩
    · obtain ⟨other', hother, hnames⟩ := h.emitted other native hearlier
      exact ⟨other', List.mem_append_left _ hother, hnames⟩
  · intro kind' declaration' hwork other hlowers
    rcases List.mem_append.mp hwork with hearlier | hlast
    · rcases h.served kind' declaration' hearlier other hlowers with
        ⟨bound, hbound, hnames⟩ | hskip
      · exact .inl ⟨bound, List.mem_append_left _ hbound, hnames⟩
      · exact .inr hskip
    · cases List.mem_singleton.mp hlast
      refine .inl ⟨group, List.mem_append_right _ List.mem_cons_self, hkind, ?_⟩
      exact Option.some.inj (lowers.nativeName_eq.symm.trans hlowers.nativeName_eq)

/-- Every step accounts for the declaration it comes to. -/
theorem step (h : Accounts options index work run) :
    Accounts options index (work ++ [(kind, declaration)])
      (run.step options kind declaration) := by
  have hadvances := advances_step options run kind declaration
  generalize run.step options kind declaration = after at hadvances
  have hindex := h.index_eq
  cases hadvances with
  | bound hbound =>
      obtain ⟨group, hgroup, hkind, hnative⟩ := h.isBound_eq_true hbound
      refine h.next rfl rfl (fun _ hentry => hentry) fun other hlowers => .inl ?_
      exact ⟨group, hgroup, hkind, Option.some.inj (hnative.symm.trans hlowers.nativeName_eq)⟩
  | unneeded hlower =>
      refine h.next rfl rfl (fun _ hentry => hentry) fun other hlowers => ?_
      rw [hindex, Mapper.lower_eq_ok_iff.mpr hlowers] at hlower
      cases hlower
  | binds lowers free =>
      rw [hindex] at lowers ⊢
      exact h.binds lowers free
  | fails hlower =>
      refine h.next registry_skip groups_skip (fun _ hentry => mem_skipped_skip.mpr (.inr hentry))
        fun other hlowers => ?_
      rw [hindex, Mapper.lower_eq_ok_iff.mpr hlowers] at hlower
      cases hlower
  | @collides name =>
      exact h.next registry_skip groups_skip
        (fun _ hentry => mem_skipped_skip.mpr (.inr hentry))
        fun _ _ => .inr ⟨name, mem_skipped_skip.mpr (.inl rfl)⟩

/-- From a run that accounts for some work, going on accounts for the rest. -/
theorem foldl (h : Accounts options index work run) (rest : List (SymbolKind × Declaration)) :
    Accounts options index (work ++ rest)
      (rest.foldl (fun run (kind, declaration) => run.step options kind declaration) run) := by
  induction rest generalizing work run with
  | nil => simpa using h
  | cons item rest ih =>
      obtain ⟨kind, declaration⟩ := item
      rw [List.foldl_cons, List.append_cons]
      exact ih h.step

/-! ## Names -/

theorem eq_of_mem_declaredNames (h : Accounts options index work run) {first second : SymbolGroup}
    (hfirst : first ∈ run.groups) (hsecond : second ∈ run.groups)
    (hscope : first.main.kind.scope = second.main.kind.scope) {name : String}
    (hname : name ∈ first.declaredNames) (hother : name ∈ second.declaredNames) :
    first = second := by
  have hpairwise := (List.nodup_flatMap.mp (h.distinct first.main.kind.scope)).2
  have hsymm : Std.Symm (Function.onFun List.Disjoint SymbolGroup.declaredNames) :=
    ⟨fun _ _ hdisjoint _ hright hleft => hdisjoint hleft hright⟩
  by_contra hne
  exact hpairwise.forall (List.mem_filter.mpr ⟨hfirst, by simp⟩)
    (List.mem_filter.mpr ⟨hsecond, by simp [hscope]⟩) hne hname hother

theorem kind_of_mem_symbols (h : Accounts options index work run) (hgroup : group ∈ run.groups)
    {symbol : BindingSymbol} (hsymbol : symbol ∈ group.symbols) :
    symbol.kind = group.main.kind := by
  obtain ⟨kind, declaration, -, hlowers⟩ := h.lowered group hgroup
  rw [hlowers.kind_eq hsymbol, hlowers.kind_main]

/-- A discovered name is that of a group with its declaration. -/
theorem exists_lowered_of_mem_names (h : Accounts options index work run) {name : String}
    (hname : name ∈ run.registry.discovered.names kind) :
    ∃ group ∈ run.groups, ∃ declaration, (kind, declaration) ∈ work ∧
      (options.mapper index).Lowers options.naming kind declaration group ∧
      declaration.nativeName? kind = some name ∧ group.main.nativeName = name := by
  obtain ⟨-, group, hgroup, rfl, rfl⟩ := (h.mem_names kind name).mp hname
  obtain ⟨kind', declaration, hwork, hlowers⟩ := h.lowered group hgroup
  cases hlowers.kind_main
  exact ⟨group, hgroup, declaration, hwork, hlowers, hlowers.nativeName_eq, rfl⟩

/-- The symbols of a scope are those of the groups of that scope. -/
theorem filter_symbols (h : Accounts options index work run) (scope : NameScope) :
    run.symbols.filter (fun symbol => symbol.kind.scope = scope) =
      (run.groups.filter fun group => group.main.kind.scope = scope).flatMap (·.symbols) := by
  have hkinds : ∀ group ∈ run.groups, ∀ symbol ∈ group.symbols,
      symbol.kind = group.main.kind :=
    fun _ hgroup _ hsymbol => h.kind_of_mem_symbols hgroup hsymbol
  unfold symbols
  generalize run.groups = groups at hkinds
  induction groups with
  | nil => rfl
  | cons group groups ih =>
      have hrest := ih fun other hother => hkinds other (List.mem_cons_of_mem _ hother)
      have hgroup := hkinds group List.mem_cons_self
      rw [List.flatMap_cons, List.filter_append, hrest, List.filter_cons]
      split
      next hscope =>
        have hall : group.symbols.filter (fun symbol => symbol.kind.scope = scope) =
            group.symbols := by
          rw [List.filter_eq_self]
          intro symbol hsymbol
          rwa [hgroup symbol hsymbol]
        rw [hall, List.flatMap_cons]
      next hscope =>
        have hnone : group.symbols.filter (fun symbol => symbol.kind.scope = scope) = [] := by
          rw [List.filter_eq_nil_iff]
          intro symbol hsymbol
          rwa [hgroup symbol hsymbol]
        rw [hnone, List.nil_append]

/-- The symbols that are not functions are emitted under different names. -/
theorem nodup_emittedName (h : Accounts options index work run) :
    ((run.symbols.filter (·.kind ≠ .function)).map (·.emittedName)).Nodup := by
  have hsame : run.symbols.filter (·.kind ≠ .function) =
      run.symbols.filter (fun symbol => symbol.kind.scope = .types) := by
    refine List.filter_congr fun symbol _ => ?_
    cases symbol.kind <;> rfl
  have hperm := List.flatMap_append_perm
    (run.groups.filter fun group => group.main.kind.scope = .types)
    (fun group => group.symbols.map (·.emittedName)) SymbolGroup.delegateNames
  rw [hsame, h.filter_symbols, List.map_flatMap]
  exact (List.nodup_append.mp (hperm.nodup_iff.mpr (h.distinct .types))).1

/-- The delegates of a symbol have different names. -/
theorem nodup_delegates (h : Accounts options index work run) {symbol : BindingSymbol}
    (hsymbol : symbol ∈ run.symbols) : (symbol.delegates.map (·.name)).Nodup := by
  obtain ⟨group, hgroup, hin⟩ := List.mem_flatMap.mp hsymbol
  have hnames := (List.nodup_flatMap.mp (h.distinct group.main.kind.scope)).1 group
    (List.mem_filter.mpr ⟨hgroup, by simp⟩)
  have hdelegates : symbol.delegates.Sublist (group.symbols.flatMap (·.delegates)) :=
    List.sublist_flatten_of_mem (List.mem_map_of_mem hin)
  exact (List.nodup_append.mp hnames).2.1.sublist (hdelegates.map _)

end Accounts

end BindingRun

namespace BindingOptions

/-- A whole run accounts for the declarations of its headers. -/
theorem accounts_run (options : BindingOptions) (units : List TranslationUnit)
    (index : SymbolIndex) :
    BindingRun.Accounts options index (TranslationUnit.agenda units)
      ((options.registry index).run options units) :=
  (BindingRun.accounts_start options index).foldl _

end BindingOptions

end Interop
