import Interop.Binding.Index
import Interop.Proofs.Lowering.Groups

/-!
# Runs, step by step

What one declaration does to a run (`BindingRun.advances_step`), and what a whole run has to
show for the declarations it has gone through (`BindingRun.Accounts`): each bound group comes
from one of them, the names given away differ, the discovered index lists exactly what is bound,
and a declaration that could be lowered is bound unless a name it needs was taken.
-/

namespace Interop

/-! ## Registries -/

namespace Registry

variable {registry : Registry} {kind other : SymbolKind} {scope : NameScope}
  {names : List String} {name native : String} {group : SymbolGroup}

@[simp] theorem mem_claimed_claim {around : NameScope} :
    name ∈ (registry.claim scope names).claimed around ↔
      (around = scope ∧ name ∈ names) ∨ name ∈ registry.claimed around := by
  cases scope <;> cases around <;> simp [claim, claimed]

@[simp] theorem claimed_discover {change : SymbolIndex → SymbolIndex} :
    (registry.discover change).claimed scope = registry.claimed scope := by
  cases scope <;> rfl

@[simp] theorem claimed_markEmitted :
    (registry.markEmitted kind native).claimed scope = registry.claimed scope := by
  cases scope <;> rfl

@[simp] theorem discovered_markEmitted :
    (registry.markEmitted kind native).discovered = registry.discovered := rfl

@[simp] theorem isEmitted_discover {change : SymbolIndex → SymbolIndex} :
    (registry.discover change).isEmitted kind native = registry.isEmitted kind native := rfl

@[simp] theorem isEmitted_claim :
    (registry.claim scope names).isEmitted kind native = registry.isEmitted kind native := by
  cases scope <;> rfl

@[simp] theorem index_markBody {body : SymbolBody} :
    (registry.markBody native body).index = registry.index := by
  cases body <;> rfl

@[simp] theorem claimed_markBody {body : SymbolBody} :
    (registry.markBody native body).claimed scope = registry.claimed scope := by
  cases body <;> cases scope <;> rfl

@[simp] theorem isEmitted_markBody {body : SymbolBody} :
    (registry.markBody native body).isEmitted kind name = registry.isEmitted kind name := by
  cases body <;> rfl

@[simp] theorem blittable_markBody {body : SymbolBody} :
    (registry.markBody native body).discovered.blittable = registry.discovered.blittable := by
  cases body <;> rfl

@[simp] theorem names_markBlittable :
    (registry.markBlittable native).discovered.names kind = registry.discovered.names kind := by
  cases kind <;> rfl

@[simp] theorem blittable_markBlittable :
    name ∈ (registry.markBlittable native).discovered.blittable ↔
      name = native ∨ name ∈ registry.discovered.blittable := by
  simp [markBlittable, discover]

variable {blittable : Bool}

@[simp] theorem index_bind : (registry.bind kind group blittable).index = registry.index := by
  unfold bind
  split <;> simp [markBlittable]

theorem mem_claimed_bind :
    name ∈ (registry.bind kind group blittable).claimed scope ↔
      (scope = kind.scope ∧ name ∈ group.declaredNames) ∨ name ∈ registry.claimed scope := by
  unfold bind
  split <;> simp [markBlittable]

theorem isEmitted_bind :
    (registry.bind kind group blittable).isEmitted other name = true ↔
      (other = kind ∧ name = group.main.nativeName) ∨ registry.isEmitted other name = true := by
  unfold bind
  split <;> simp [markBlittable, isEmitted_markEmitted]

theorem mem_blittable_bind :
    name ∈ (registry.bind kind group blittable).discovered.blittable ↔
      (blittable = true ∧ name = group.main.nativeName) ∨ name ∈ registry.discovered.blittable := by
  unfold bind
  split <;> simp_all

end Registry

namespace Mapper.Lowers

variable {mapper : Mapper} {naming : NamingPolicy} {kind : SymbolKind}
  {declaration : Declaration} {group : SymbolGroup} {registry : Registry}

/-- A bound group is noted under its own kind, unless it is a function. -/
theorem mem_names_markBody (h : mapper.Lowers naming kind declaration group)
    {other : SymbolKind} {native name : String} :
    name ∈ (registry.markBody native group.main.body).discovered.names other ↔
      (other = kind ∧ kind ≠ .function ∧ name = native) ∨
        name ∈ registry.discovered.names other := by
  cases h with
  | record _ lowered =>
      obtain ⟨-, -, -, isUnion, pack, fields, hbody⟩ := main_of_lowerRecordAs lowered
      rw [hbody]
      cases other <;> simp [Registry.markBody, Registry.markRecord, Registry.discover,
        SymbolIndex.names]
  | delegate | wrapper =>
      cases other <;> simp [Registry.markBody, Registry.markAlias, Registry.discover,
        SymbolIndex.names, SymbolGroup.single]
  | enumeration =>
      cases other <;> simp [Registry.markBody, Registry.markEnum, Registry.discover,
        SymbolIndex.names, SymbolGroup.single]
  | function =>
      cases other <;> simp [Registry.markBody, SymbolGroup.single]

theorem mem_names_bind (h : mapper.Lowers naming kind declaration group)
    {other : SymbolKind} {name : String} {blittable : Bool} :
    name ∈ (registry.bind kind group blittable).discovered.names other ↔
      (other = kind ∧ kind ≠ .function ∧ name = group.main.nativeName) ∨
        name ∈ registry.discovered.names other := by
  unfold Registry.bind
  split <;> simp [h.mem_names_markBody]

end Mapper.Lowers

/-! ## One step -/

/-- What the types of a run with an index are mapped by. -/
def BindingOptions.mapper (options : BindingOptions) (index : SymbolIndex) : Mapper :=
  ⟨index, options.marshalStrings⟩

namespace BindingRun

variable {options : BindingOptions} {run : BindingRun} {kind : SymbolKind}
  {declaration : Declaration}

/-- What a declaration may do to a run. -/
inductive Advances (options : BindingOptions) (run : BindingRun) (kind : SymbolKind)
    (declaration : Declaration) : BindingRun → Prop
  | bound (hbound : run.registry.isBound kind declaration = true) :
      Advances options run kind declaration run
  | unneeded (hlower : (options.mapper run.registry.index).lower options.naming kind
        declaration = .ok none) :
      Advances options run kind declaration run
  | binds {group : SymbolGroup}
      (lowers : (options.mapper run.registry.index).Lowers options.naming kind declaration group)
      (free : group.declaredNames.Nodup ∧
        ∀ name ∈ group.declaredNames, name ∉ run.registry.claimed kind.scope) :
      Advances options run kind declaration
        { run with
          registry := run.registry.bind kind group
            ((options.mapper run.registry.index).holdsNoReference group)
          groups := run.groups ++ [group] }
  | fails {error : MappingError} (hlower : (options.mapper run.registry.index).lower
        options.naming kind declaration = .error error) :
      Advances options run kind declaration (run.skip (declaration.skipped kind error))
  | collides {name : String} :
      Advances options run kind declaration
        (run.skip (declaration.skipped kind (.nameCollision name)))

theorem advances_step (options : BindingOptions) (run : BindingRun) (kind : SymbolKind)
    (declaration : Declaration) :
    Advances options run kind declaration (run.step options kind declaration) := by
  have hmapper : run.registry.mapper options.marshalStrings =
      options.mapper run.registry.index := rfl
  unfold step Registry.process
  by_cases hbound : run.registry.isBound kind declaration = true
  · rw [if_pos hbound]
    exact .bound hbound
  · rw [if_neg hbound, hmapper]
    cases hlower : (options.mapper run.registry.index).lower options.naming kind declaration with
    | error error =>
        simp only [hlower, bind, Except.bind]
        exact .fails hlower
    | ok answer =>
        cases answer with
        | none =>
            simp only [hlower, bind, Except.bind]
            exact .unneeded hlower
        | some group =>
            cases hconflict : run.registry.firstConflict? kind.scope group.declaredNames with
            | some name =>
                simp only [hlower, bind, Except.bind, hconflict]
                exact .collides
            | none =>
                simp only [hlower, bind, Except.bind, hconflict]
                exact .binds (Mapper.lower_eq_ok_iff.mp hlower)
                  (NameSet.firstTaken?_eq_none_iff.mp hconflict)

@[simp] theorem registry_skip {entry : SkippedSymbol} :
    (run.skip entry).registry = run.registry := by
  unfold skip
  split <;> rfl

@[simp] theorem groups_skip {entry : SkippedSymbol} :
    (run.skip entry).groups = run.groups := by
  unfold skip
  split <;> rfl

@[simp] theorem mem_skipped_skip {entry other : SkippedSymbol} :
    other ∈ (run.skip entry).skipped ↔ other = entry ∨ other ∈ run.skipped := by
  unfold skip
  split
  next hmem => grind
  next => simp [or_comm]

end BindingRun

end Interop
