import Interop.Proofs.Binding.Runs

/-!
# The books of a run

A run keeps books while it binds: the names it has claimed in each scope, and the index of what it
has discovered. Both can be read off its output. A name is claimed because the run started with it
or because a bound group declares it, never for both reasons (`BindingRun.GivesAway`), and what is
discovered are the declarations of the bound groups. So at the end of a run each scope has exactly
the names that are declared in it, each once, whatever index the run consults
(`BindingRun.Balances`).
-/

namespace Interop

/-- The names that a symbol declares: its own and those of its delegates. -/
def BindingSymbol.names (symbol : BindingSymbol) : List String :=
  symbol.emittedName :: symbol.delegates.map (·.name)

/-- A group declares the names of its symbols. -/
theorem SymbolGroup.flatMap_names_perm (group : SymbolGroup) :
    (group.symbols.flatMap (·.names)).Perm group.declaredNames := by
  rw [declaredNames, delegateNames, List.map_flatMap]
  exact (List.map_append_flatMap_perm group.symbols _ _).symm

/-- Only records and wrappers are found to hold no managed reference. -/
theorem Mapper.Lowers.kind_of_holdsNoReference {mapper : Mapper} {naming : NamingPolicy}
    {kind : SymbolKind} {declaration : Declaration} {group : SymbolGroup}
    (h : mapper.Lowers naming kind declaration group)
    (hplain : mapper.holdsNoReference group = true) : kind = .struct ∨ kind = .typedef := by
  cases h with
  | record => exact .inl rfl
  | wrapper => exact .inr rfl
  | delegate | enumeration | function => cases hplain

namespace BindingRun

variable {options : BindingOptions} {index : SymbolIndex} {initial : Registry}
  {work : List (SymbolKind × Declaration)} {run : BindingRun} {kind : SymbolKind}
  {declaration : Declaration} {group : SymbolGroup} {scope : NameScope} {name : String}

/-- The names that the output of a run declares in a scope. -/
def names (run : BindingRun) (scope : NameScope) : List String :=
  (run.symbols.filter fun symbol => symbol.kind.scope = scope).flatMap (·.names)

/-- A group of a run declares the binding of a native declaration. -/
def Binds (run : BindingRun) (kind : SymbolKind) (native : String) : Prop :=
  ∃ group ∈ run.groups, group.main.kind = kind ∧ group.main.nativeName = native

/-! ## Claims -/

theorem mem_declared : name ∈ run.declared scope ↔
    ∃ group ∈ run.groups, group.main.kind.scope = scope ∧ name ∈ group.declaredNames := by
  simp [declared, and_assoc]

/-- The claimed names are those of the registry at the start and those that the groups declare,
which differ from them. -/
structure GivesAway (initial : Registry) (run : BindingRun) : Prop where
  mem_claimed : ∀ scope name,
    name ∈ run.registry.claimed scope ↔ name ∈ initial.claimed scope ∨ name ∈ run.declared scope
  fresh : ∀ scope, ∀ name ∈ run.declared scope, name ∉ initial.claimed scope

namespace GivesAway

theorem start (registry : Registry) : GivesAway registry (.start registry) where
  mem_claimed _ _ := by simp [BindingRun.start, declared]
  fresh := nofun

/-- Binding a group gives away its names. -/
theorem binds (h : GivesAway initial run) (hkind : group.main.kind = kind)
    (free : ∀ name ∈ group.declaredNames, name ∉ run.registry.claimed kind.scope)
    (blittable : Bool) :
    GivesAway initial { run with
      registry := run.registry.bind kind group blittable
      groups := run.groups ++ [group] } where
  mem_claimed scope name := by
    show name ∈ (run.registry.bind kind group blittable).claimed scope ↔ _
    rw [Registry.mem_claimed_bind, h.mem_claimed, declared_append, hkind]
    grind
  fresh scope name hname := by
    rw [declared_append, hkind] at hname
    rcases List.mem_append.mp hname with hearlier | hlast
    · exact h.fresh scope name hearlier
    · split at hlast
      next hscope =>
        subst hscope
        exact fun hstart => free name hlast ((h.mem_claimed _ name).mpr (.inl hstart))
      next => simp at hlast

theorem skip (h : GivesAway initial run) (entry : SkippedSymbol) :
    GivesAway initial (run.skip entry) := by
  have hdeclared : (run.skip entry).declared = run.declared := by
    funext scope
    rw [declared, declared, groups_skip]
  constructor
  · rw [registry_skip, hdeclared]
    exact h.mem_claimed
  · rw [hdeclared]
    exact h.fresh

theorem step (h : GivesAway initial run) (options : BindingOptions) (kind : SymbolKind)
    (declaration : Declaration) : GivesAway initial (run.step options kind declaration) := by
  have hadvances := advances_step options run kind declaration
  generalize run.step options kind declaration = after at hadvances
  cases hadvances with
  | bound | unneeded => exact h
  | binds lowers free => exact h.binds lowers.kind_main free.2 _
  | fails | collides => exact h.skip _

theorem foldl (h : GivesAway initial run) (options : BindingOptions)
    (work : List (SymbolKind × Declaration)) :
    GivesAway initial
      (work.foldl (fun run (kind, declaration) => run.step options kind declaration) run) := by
  induction work generalizing run with
  | nil => exact h
  | cons item work ih =>
      obtain ⟨kind, declaration⟩ := item
      rw [List.foldl_cons]
      exact ih (h.step options kind declaration)

end GivesAway

/-! ## Books -/

namespace Accounts

/-- The names of the output are those that the groups declare. -/
theorem names_perm (h : Accounts options index work run) (scope : NameScope) :
    (run.names scope).Perm (run.declared scope) := by
  rw [names, h.filter_symbols, List.flatMap_assoc, declared]
  exact List.Perm.flatMap_left _ fun group _ => group.flatMap_names_perm

theorem nodup_names (h : Accounts options index work run) (scope : NameScope) :
    (run.names scope).Nodup :=
  (h.names_perm scope).nodup_iff.mpr (h.distinct scope)

theorem mem_names_iff (h : Accounts options index work run) :
    name ∈ run.names scope ↔ name ∈ run.declared scope :=
  (h.names_perm scope).mem_iff

theorem mem_names_iff_binds (h : Accounts options index work run) (kind : SymbolKind)
    (hkind : kind ≠ .function) (name : String) :
    name ∈ run.registry.discovered.names kind ↔ run.Binds kind name := by
  rw [h.mem_names]
  exact and_iff_right hkind

theorem mem_names_of_mem_blittable (h : Accounts options index work run)
    (hname : name ∈ run.registry.discovered.blittable) :
    name ∈ run.registry.discovered.names .struct ∨
      name ∈ run.registry.discovered.names .typedef := by
  obtain ⟨group, hgroup, hplain, hnative⟩ := (h.mem_blittable name).mp hname
  obtain ⟨kind, declaration, -, hlowers⟩ := h.lowered group hgroup
  have hbinds : run.Binds kind name := ⟨group, hgroup, hlowers.kind_main, hnative⟩
  rcases hlowers.kind_of_holdsNoReference hplain with rfl | rfl
  · exact .inl ((h.mem_names_iff_binds _ (by decide) name).mpr hbinds)
  · exact .inr ((h.mem_names_iff_binds _ (by decide) name).mpr hbinds)

end Accounts

/-- The books of a run agree with its output; `container` is the class that holds the
functions. -/
structure Balances (container : String) (run : BindingRun) : Prop where
  types_nodup : (run.names .types).Nodup
  types_claimed : ∀ name, name ∈ run.registry.types ↔ name ∈ run.names .types
  container_nodup : (container :: run.names .container).Nodup
  container_claimed : ∀ name,
    name ∈ run.registry.container ↔ name ∈ container :: run.names .container
  records : ∀ name, name ∈ run.registry.discovered.records ↔ run.Binds .struct name
  enums : ∀ name, name ∈ run.registry.discovered.enums ↔ run.Binds .enumeration name
  aliases : ∀ name, name ∈ run.registry.discovered.aliases ↔ run.Binds .typedef name
  blittable : ∀ name ∈ run.registry.discovered.blittable,
    name ∈ run.registry.discovered.records ∨ name ∈ run.registry.discovered.aliases

end BindingRun

namespace BindingOptions

theorem mem_claimed_registry {options : BindingOptions} {index : SymbolIndex} {scope : NameScope}
    {name : String} : name ∈ (options.registry index).claimed scope ↔
      scope = .container ∧ name = options.container := by
  rw [registry, Registry.mem_claimed_claim]
  cases scope <;> simp [Registry.claimed, Registry.ofIndex]

theorem givesAway_run (options : BindingOptions) (units : List TranslationUnit)
    (index : SymbolIndex) :
    BindingRun.GivesAway (options.registry index)
      ((options.registry index).run options units) :=
  (BindingRun.GivesAway.start _).foldl options _

/-- No member of the class that holds the functions is called like the class. -/
theorem container_not_mem_names (options : BindingOptions) (units : List TranslationUnit)
    (index : SymbolIndex) :
    options.container ∉ ((options.registry index).run options units).names .container := by
  rw [(options.accounts_run units index).mem_names_iff]
  intro hcontainer
  exact (options.givesAway_run units index).fresh .container _ hcontainer
    (mem_claimed_registry.mpr ⟨rfl, rfl⟩)

/-- At the end of a run the claimed names and the discovered index are what its output says,
whatever index it consults. -/
theorem balances_run (options : BindingOptions) (units : List TranslationUnit)
    (index : SymbolIndex) :
    ((options.registry index).run options units).Balances options.container := by
  have haccounts := options.accounts_run units index
  have hgives := options.givesAway_run units index
  have hcontainer := options.container_not_mem_names units index
  generalize (options.registry index).run options units = run at haccounts hgives hcontainer
  have hclaimed : ∀ scope name, name ∈ run.registry.claimed scope ↔
      (scope = .container ∧ name = options.container) ∨ name ∈ run.names scope := by
    intro scope name
    rw [hgives.mem_claimed, mem_claimed_registry, haccounts.mem_names_iff]
  constructor
  case types_nodup => exact haccounts.nodup_names .types
  case types_claimed => simpa [Registry.claimed] using hclaimed .types
  case container_nodup =>
    exact List.nodup_cons.mpr ⟨hcontainer, haccounts.nodup_names .container⟩
  case container_claimed => simpa [Registry.claimed] using hclaimed .container
  case records => exact haccounts.mem_names_iff_binds .struct (by decide)
  case enums => exact haccounts.mem_names_iff_binds .enumeration (by decide)
  case aliases => exact haccounts.mem_names_iff_binds .typedef (by decide)
  case blittable => exact fun _ hname => haccounts.mem_names_of_mem_blittable hname

end BindingOptions

end Interop
