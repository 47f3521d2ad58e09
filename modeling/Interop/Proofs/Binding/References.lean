import Interop.Binding.Generate
import Interop.Proofs.Binding.Runs
import Interop.Proofs.Native.Parts

/-!
# References and declarations

Whether what the generated source refers to is declared in it. A run consults an index that an
earlier run discovered. When it discovers the same index again, every type referred to by value
is declared exactly once, and every delegate is declared before it is used. When it does not,
because the rounds ran out, a name may be stale: listed by the index and not bound any more. The
generated source is then closed exactly when each stale name it uses is declared all the same, by
a record lifted out under that very name.
-/

namespace Interop

/-- No name is listed as two kinds of declaration. -/
def SymbolIndex.KindsDisjoint (index : SymbolIndex) : Prop :=
  ∀ name, ¬ (name ∈ index.records ∧ name ∈ index.enums) ∧
    ¬ (name ∈ index.records ∧ name ∈ index.aliases) ∧
    ¬ (name ∈ index.enums ∧ name ∈ index.aliases)

/-- A symbol declares the type that a reference to `name` is written as. -/
def BindingSymbol.DeclaresType (symbol : BindingSymbol) (name : String) : Prop :=
  symbol.kind ≠ .function ∧ symbol.emittedName = (ManagedType.named name).source

instance (symbol : BindingSymbol) (name : String) : Decidable (symbol.DeclaresType name) :=
  inferInstanceAs (Decidable (_ ∧ _))

namespace BindingRun.Accounts

variable {options : BindingOptions} {index : SymbolIndex}
  {work : List (SymbolKind × Declaration)} {run : BindingRun}

/-- The main symbol of a bound group declares the type of its native name. -/
theorem declaresType_main (h : Accounts options index work run) {group : SymbolGroup}
    (hgroup : group ∈ run.groups) (hkind : group.main.kind ≠ .function) :
    group.main.DeclaresType group.main.nativeName := by
  obtain ⟨kind, declaration, -, hlowers⟩ := h.lowered group hgroup
  refine ⟨hkind, ?_⟩
  rw [hlowers.kind_main] at hkind
  rw [hlowers.emittedName_eq hkind, ManagedType.source]

theorem exists_declaresType_of_lists (h : Accounts options index work run) {name : String}
    (hname : run.registry.discovered.Lists name) :
    ∃ symbol ∈ run.symbols, symbol.DeclaresType name := by
  obtain ⟨kind, hkind⟩ := SymbolIndex.lists_iff.mp hname
  obtain ⟨hfunction, group, hgroup, rfl, rfl⟩ := (h.mem_names kind name).mp hkind
  exact ⟨group.main, mem_symbols hgroup SymbolGroup.main_mem_symbols,
    h.declaresType_main hgroup hfunction⟩

/-- A declared type is declared once. -/
theorem countP_declaresType (h : Accounts options index work run) {name : String}
    (hname : ∃ symbol ∈ run.symbols, symbol.DeclaresType name) :
    run.symbols.countP (fun symbol => symbol.DeclaresType name) = 1 := by
  obtain ⟨symbol, hsymbol, hkind, hemitted⟩ := hname
  have hcount : run.symbols.countP (fun symbol => symbol.DeclaresType name) =
      ((run.symbols.filter (·.kind ≠ .function)).map (·.emittedName)).count
        (ManagedType.named name).source := by
    rw [List.count, List.countP_map, List.countP_filter]
    congr 1
    funext other
    rw [Bool.eq_iff_iff, decide_eq_true_iff, BindingSymbol.DeclaresType]
    simp [and_comm]
  rw [hcount]
  refine List.count_eq_one_of_mem h.nodup_emittedName ?_
  exact List.mem_map.mpr ⟨symbol, List.mem_filter.mpr ⟨hsymbol, by simpa using hkind⟩, hemitted⟩

/-- What a run discovers lists each name as one kind. -/
theorem eq_of_mem_names (h : Accounts options index work run) {kind other : SymbolKind}
    {name : String} (hname : name ∈ run.registry.discovered.names kind)
    (hother : name ∈ run.registry.discovered.names other) : kind = other := by
  obtain ⟨hkind, first, hfirst, rfl, rfl⟩ := (h.mem_names kind name).mp hname
  obtain ⟨hkind', second, hsecond, rfl, hnative⟩ := (h.mem_names other _).mp hother
  have hscope : first.main.kind.scope = second.main.kind.scope := by
    rw [SymbolKind.scope_of_ne_function hkind, SymbolKind.scope_of_ne_function hkind']
  have hemitted : second.main.emittedName = first.main.emittedName := by
    rw [(h.declaresType_main hfirst hkind).2, (h.declaresType_main hsecond hkind').2, hnative]
  have hdeclared := SymbolGroup.emittedName_mem_declaredNames second.main_mem_symbols
  rw [hemitted] at hdeclared
  rw [h.eq_of_mem_declaredNames hfirst hsecond hscope
    (SymbolGroup.emittedName_mem_declaredNames SymbolGroup.main_mem_symbols) hdeclared]

theorem kindsDisjoint (h : Accounts options index work run) :
    run.registry.discovered.KindsDisjoint := by
  intro name
  refine ⟨?_, ?_, ?_⟩
  · rintro ⟨hrecord, henum⟩
    have : SymbolKind.struct = .enumeration := h.eq_of_mem_names hrecord henum
    cases this
  · rintro ⟨hrecord, halias⟩
    have : SymbolKind.struct = .typedef := h.eq_of_mem_names hrecord halias
    cases this
  · rintro ⟨henum, halias⟩
    have : SymbolKind.enumeration = .typedef := h.eq_of_mem_names henum halias
    cases this

/-- What a bound symbol refers to is listed by the consulted index or is a record lifted out in
the same run. -/
theorem lists_or_hoisted (h : Accounts options index work run) {symbol : BindingSymbol}
    (hsymbol : symbol ∈ run.symbols) {name : String} (hname : symbol.Exposes (.named name)) :
    index.Lists name ∨ ∃ group ∈ run.groups, ∃ hoisted ∈ group.hoisted,
      hoisted.DeclaresType name := by
  obtain ⟨group, hgroup, hin⟩ := List.mem_flatMap.mp hsymbol
  obtain ⟨kind, declaration, -, hlowers⟩ := h.lowered group hgroup
  rcases hlowers.lists_or_hoists hin hname with hlists | ⟨hoisted, hhoisted, hemitted⟩
  · exact .inl hlists
  · refine .inr ⟨group, hgroup, hoisted, hhoisted, ?_, ?_⟩
    · cases hlowers with
      | record _ lowered =>
          rw [(Mapper.record_of_mem_symbols lowered
            (SymbolGroup.mem_symbols_of_mem_hoisted hhoisted)).1]
          nofun
      | delegate | wrapper | enumeration | function => simp [SymbolGroup.single] at hhoisted
    · rw [hemitted, ManagedType.source]

end BindingRun.Accounts

namespace BindingOptions

/-- Options of a user without wishes about names. -/
def sample : BindingOptions := ⟨"Bindings", "native", "NativeMethods", true, {}⟩

variable (options : BindingOptions) (units : List TranslationUnit)

/-- In a settled run every reference resolves: the index lists no name as two kinds, a type
referred to by value is declared by exactly one symbol, and a symbol declares each delegate it
uses once, after the delegates that this one mentions. -/
theorem references_resolve (settled : options.IsSettled units (options.buildIndex units)) :
    (options.buildIndex units).KindsDisjoint ∧
      ∀ symbol ∈ (options.generate units).symbols,
        (∀ name, symbol.Exposes (.named name) →
          (options.generate units).symbols.countP (fun other => other.DeclaresType name) = 1) ∧
        ∀ signature, symbol.Exposes (.delegate signature) → symbol.DeclaresOnce signature := by
  have haccounts := options.accounts_run units (options.buildIndex units)
  have hdiscovered : (options.finalRun units).registry.discovered = options.buildIndex units :=
    settled
  refine ⟨hdiscovered ▸ haccounts.kindsDisjoint, ?_⟩
  intro symbol hsymbol
  refine ⟨fun name hname => haccounts.countP_declaresType ?_,
    fun signature hsignature => BindingSymbol.declaresOnce (haccounts.nodup_delegates hsymbol)
      hsignature⟩
  rcases haccounts.lists_or_hoisted hsymbol hname with
    hlists | ⟨group, hgroup, hoisted, hin, hdeclares⟩
  · exact haccounts.exists_declaresType_of_lists (hdiscovered.symm ▸ hlists)
  · exact ⟨hoisted, BindingRun.mem_symbols hgroup (SymbolGroup.mem_symbols_of_mem_hoisted hin),
      hdeclares⟩

/-- Two structures, one of which holds the other through a typedef and the other one a function
pointer. -/
def shapes : List TranslationUnit :=
  [.ofDeclarations "shapes.h" [
    .ofStruct "Point" [.ofField "x" .int, .ofField "moved" .callback],
    .ofAlias "Corner" (.record "Point"),
    .ofStruct "Shape" [.ofField "corners" (.array (.ofAlias "Corner" (.record "Point")) 4)]]]

theorem references_resolve_shapes :
    sample.IsSettled shapes (sample.buildIndex shapes) ∧
      (sample.generate shapes).symbols.map (·.emittedName) = ["Point", "Shape", "Corner"] ∧
      (sample.buildIndex shapes).KindsDisjoint ∧
      ∀ symbol ∈ (sample.generate shapes).symbols,
        (∀ name, symbol.Exposes (.named name) →
          (sample.generate shapes).symbols.countP (fun other => other.DeclaresType name) = 1) ∧
        ∀ signature, symbol.Exposes (.delegate signature) → symbol.DeclaresOnce signature :=
  ⟨by decide +kernel, by decide +kernel, references_resolve sample shapes (by decide +kernel)⟩

/-- Every type that the generated source refers to by value is declared in it. -/
def IsClosed : Prop :=
  ∀ symbol ∈ (options.generate units).symbols, ∀ name, symbol.Exposes (.named name) →
    ∃ other ∈ (options.generate units).symbols, other.DeclaresType name

/-- A name of the consulted index is bound again by the last run, or is the name of a record that
the last run lifts out. -/
def Renews (name : String) : Prop :=
  (∃ listed, (options.discover units (options.buildIndex units)).Lists listed ∧
    (ManagedType.named listed).source = (ManagedType.named name).source) ∨
  ∃ group ∈ (options.finalRun units).groups, ∃ hoisted ∈ group.hoisted, hoisted.DeclaresType name

/-- The generated source is closed exactly when every name of the consulted index that it uses is
renewed by the last run, settled or not. -/
theorem isClosed_iff :
    options.IsClosed units ↔
      ∀ symbol ∈ (options.generate units).symbols, ∀ name, symbol.Exposes (.named name) →
        (options.buildIndex units).Lists name → options.Renews units name := by
  have haccounts := options.accounts_run units (options.buildIndex units)
  constructor
  · intro hclosed symbol hsymbol name hname _
    obtain ⟨other, hother, hkind, hemitted⟩ := hclosed symbol hsymbol name hname
    obtain ⟨group, hgroup, hin⟩ := List.mem_flatMap.mp hother
    rcases List.mem_append.mp hin with hhoisted | hmain
    · exact .inr ⟨group, hgroup, other, hhoisted, hkind, hemitted⟩
    · cases List.mem_singleton.mp hmain
      refine .inl ⟨group.main.nativeName, SymbolIndex.lists_iff.mpr ⟨group.main.kind, ?_⟩, ?_⟩
      · exact (haccounts.mem_names _ _).mpr ⟨hkind, group, hgroup, rfl, rfl⟩
      · rw [← hemitted, (haccounts.declaresType_main hgroup hkind).2]
  · intro hrenews symbol hsymbol name hname
    have hhoisted : (∃ group ∈ (options.finalRun units).groups, ∃ hoisted ∈ group.hoisted,
        hoisted.DeclaresType name) →
        ∃ other ∈ (options.generate units).symbols, other.DeclaresType name := by
      rintro ⟨group, hgroup, hoisted, hin, hdeclares⟩
      exact ⟨hoisted, BindingRun.mem_symbols hgroup (SymbolGroup.mem_symbols_of_mem_hoisted hin),
        hdeclares⟩
    rcases haccounts.lists_or_hoisted hsymbol hname with hlists | hlifted
    · rcases hrenews symbol hsymbol name hname hlists with ⟨listed, hlisted, hsame⟩ | hlifted
      · obtain ⟨other, hother, hkind, hemitted⟩ := haccounts.exists_declaresType_of_lists hlisted
        exact ⟨other, hother, hkind, hemitted.trans hsame⟩
      · exact hhoisted hlifted
    · exact hhoisted hlifted

/-- A structure whose delegate and a typedef want one name. Whether the structure is bound depends
on whether the typedef was, so that the index never settles. -/
def oscillating : List TranslationUnit :=
  [.ofDeclarations "p.h" [
    .ofAlias "P_cb" (.openArray .int),
    .ofStruct "P" [.ofField "cb" .callback, .ofField "x" (.ofAlias "P_cb" (.openArray .int))],
    .ofStruct "B" [.ofField "p" (.record "P")]]]

/-- The rounds run out while the index lists `P`, which the last run does not bind. -/
theorem not_isClosed_oscillating : ¬ sample.IsClosed oscillating := by
  intro hclosed
  have hrefers : ∃ symbol ∈ (sample.generate oscillating).symbols,
      symbol.body.types.filterMap (·.embedded?) = ["P"] := by decide +kernel
  obtain ⟨symbol, hsymbol, htypes⟩ := hrefers
  have hname : "P" ∈ symbol.body.types.filterMap (·.embedded?) := htypes ▸ List.mem_cons_self
  obtain ⟨type, htype, hembedded⟩ := List.mem_filterMap.mp hname
  have hundeclared : ¬ ∃ other ∈ (sample.generate oscillating).symbols, other.DeclaresType "P" := by
    decide +kernel
  exact hundeclared (hclosed symbol hsymbol "P"
    ⟨type, htype, ManagedType.exposes_of_embedded? hembedded⟩)

end BindingOptions

end Interop
