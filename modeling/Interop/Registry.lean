import Interop.Managed.Symbol
import Interop.NameSet

/-!
# Indices and registries

A `SymbolIndex` says which declarations a run binds, so that types can be mapped before the
declarations they mention are reached. A `Registry` is the state of one run: the index it
consults, the index of what it has bound so far, the names it has given away in each scope, and
the native declarations it is done with. Lookups never see what the run itself has bound, and a
group of names is claimed only when `firstTaken?` finds none of them taken or repeated
(`firstTaken?_eq_none_iff`).
-/

namespace Interop

/-- Which declarations a run binds, by native name. -/
structure SymbolIndex where
  records : NameSet
  enums : NameSet
  /-- Typedefs bound as a wrapper or a delegate. -/
  aliases : NameSet
  /-- Records and wrappers that hold no managed reference. -/
  blittable : NameSet
deriving DecidableEq

namespace SymbolIndex

/-- The index of a run that binds nothing. -/
def empty : SymbolIndex := ⟨∅, ∅, ∅, ∅⟩

instance : EmptyCollection SymbolIndex := ⟨empty⟩
instance : Inhabited SymbolIndex := ⟨empty⟩

end SymbolIndex

/-- The scopes in which names must differ. -/
inductive NameScope where
  /-- The namespace: structures, enumerations, wrappers and their delegates. -/
  | types
  /-- The class that holds the functions and the delegates of their parameters. -/
  | container
deriving DecidableEq, Inhabited

/-- The first name that is taken already or has occurred before in the list. -/
def NameSet.firstTaken? (taken : NameSet) : List String → Option String
  | [] => none
  | name :: names =>
    if taken.contains name then some name else (taken.insert name).firstTaken? names

theorem NameSet.firstTaken?_eq_none_iff {taken : NameSet} {names : List String} :
    taken.firstTaken? names = none ↔ names.Nodup ∧ ∀ name ∈ names, name ∉ taken := by
  induction names generalizing taken with
  | nil => simp [firstTaken?]
  | cons name names ih =>
    by_cases h : name ∈ taken
    · simp [firstTaken?, h]
    · simp only [firstTaken?, contains_iff, h, if_false, ih, mem_insert, List.nodup_cons,
        List.mem_cons]
      grind

/-- The state of a run. -/
structure Registry where
  /-- What types are mapped by. -/
  index : SymbolIndex
  /-- What the run has bound. -/
  discovered : SymbolIndex
  types : NameSet
  container : NameSet
  /-- The native declarations that are bound. -/
  emitted : List (SymbolKind × String)

namespace Registry

/-- The state of a run that consults an index and has bound nothing. -/
def ofIndex (index : SymbolIndex) : Registry := ⟨index, ∅, ∅, ∅, []⟩

instance : Inhabited Registry := ⟨ofIndex ∅⟩

variable (registry : Registry)

/-- The names claimed in a scope. -/
def claimed : NameScope → NameSet
  | .types => registry.types
  | .container => registry.container

/-- Whether a native declaration is bound. -/
def isEmitted (kind : SymbolKind) (native : String) : Bool :=
  registry.emitted.contains (kind, native)

/-- The first name of a list that cannot be claimed in a scope. -/
def firstConflict? (scope : NameScope) (names : List String) : Option String :=
  (registry.claimed scope).firstTaken? names

/-- Claim names in a scope. -/
def claim (scope : NameScope) (names : List String) : Registry :=
  match scope with
  | .types => { registry with types := registry.types.insertAll names }
  | .container => { registry with container := registry.container.insertAll names }

/-- Note that a native declaration is bound. -/
def markEmitted (kind : SymbolKind) (native : String) : Registry :=
  { registry with emitted := (kind, native) :: registry.emitted }

/-- Change what the run has bound. -/
def discover (change : SymbolIndex → SymbolIndex) : Registry :=
  { registry with discovered := change registry.discovered }

/-- Note that a record is bound. -/
def markRecord (name : String) : Registry :=
  registry.discover fun index => { index with records := index.records.insert name }

/-- Note that an enumeration is bound. -/
def markEnum (name : String) : Registry :=
  registry.discover fun index => { index with enums := index.enums.insert name }

/-- Note that a typedef is bound. -/
def markAlias (name : String) : Registry :=
  registry.discover fun index => { index with aliases := index.aliases.insert name }

/-- Note that a record or wrapper holds no managed reference. -/
def markBlittable (name : String) : Registry :=
  registry.discover fun index => { index with blittable := index.blittable.insert name }

@[simp] theorem index_claim (scope : NameScope) (names : List String) :
    (registry.claim scope names).index = registry.index := by
  cases scope <;> rfl

@[simp] theorem discovered_claim (scope : NameScope) (names : List String) :
    (registry.claim scope names).discovered = registry.discovered := by
  cases scope <;> rfl

@[simp] theorem index_markEmitted (kind : SymbolKind) (native : String) :
    (registry.markEmitted kind native).index = registry.index := rfl

@[simp] theorem index_discover (change : SymbolIndex → SymbolIndex) :
    (registry.discover change).index = registry.index := rfl

theorem isEmitted_markEmitted (kind other : SymbolKind) (native name : String) :
    (registry.markEmitted kind native).isEmitted other name = true ↔
      (other = kind ∧ name = native) ∨ registry.isEmitted other name = true := by
  simp [isEmitted, markEmitted]

end Registry

end Interop
