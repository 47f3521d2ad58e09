import Interop.Binding.Generate
import Interop.Proofs.Binding.Runs
import Interop.Proofs.Native.Parts

/-!
# Every declaration is answered

A declaration is done with when going on with it once more would neither bind anything nor report
anything new (`BindingRun.IsDone`). A step is done with its declaration afterwards, and later
steps, which only claim more names and bind more declarations, do not undo that. So at the end of
a run every declaration it came to is bound, reported as skipped, or one that needs no binding
(`BindingOptions.declarations_answered`).
-/

namespace Interop

/-! ## Declarations without a binding -/

namespace Declaration

/-- The declarations that are passed over in silence: typedefs that give a record or an
enumeration the name it has already, and functions that are excluded or not visible outside. -/
inductive NeedsNone (naming : NamingPolicy) : SymbolKind → Declaration → Prop
  | record {declaration : Declaration} {target : NativeType} {isUnion : Bool}
      (targeted : declaration.typedefTarget? = some target)
      (resolved : target.resolve.kind = .record (some declaration.spelling) isUnion) :
      NeedsNone naming .typedef declaration
  | enumeration {declaration : Declaration} {target integer : NativeType}
      (targeted : declaration.typedefTarget? = some target)
      (resolved : target.resolve.kind = .enumeration (some declaration.spelling) integer) :
      NeedsNone naming .typedef declaration
  | excluded {declaration : Declaration}
      (excluded : naming.isExcluded declaration.spelling = true) :
      NeedsNone naming .function declaration
  | internal {declaration : Declaration} (internal : declaration.linkage = .internal) :
      NeedsNone naming .function declaration

/-- The kind and the name by which a declaration is reported. -/
def reportKey (declaration : Declaration) (kind : SymbolKind) : SymbolKind × String :=
  (kind, (declaration.nativeName? kind).getD "<anonymous>")

end Declaration

/-- The kind and the name of an entry. -/
def SkippedSymbol.key (entry : SkippedSymbol) : SymbolKind × String := (entry.kind, entry.name)

@[simp] theorem Declaration.key_skipped (declaration : Declaration) (kind : SymbolKind)
    (error : MappingError) :
    (declaration.skipped kind error).key = declaration.reportKey kind := rfl

theorem NativeType.isTagged_iff {type : NativeType} {name : String} :
    type.isTagged name = true ↔
      (∃ isUnion, type.resolve.kind = .record (some name) isUnion) ∨
        ∃ integer, type.resolve.kind = .enumeration (some name) integer := by
  rw [isTagged]
  cases type.resolve.kind <;> simp

namespace Mapper

variable {mapper : Mapper} {naming : NamingPolicy} {kind : SymbolKind}
  {declaration : Declaration}

theorem lowerTypedef_eq_none_iff :
    mapper.lowerTypedef declaration = .ok none ↔
      ∃ target, declaration.typedefTarget? = some target ∧
        target.isTagged declaration.spelling = true := by
  rw [lowerTypedef]
  cases declaration.typedefTarget? with
  | none => simp
  | some target =>
      by_cases htagged : target.isTagged declaration.spelling = true
      · simp [htagged]
      · simp [htagged, Outcome.map_eq_ok_iff]

theorem lowerFunction_eq_none_iff :
    mapper.lowerFunction naming declaration = .ok none ↔
      naming.isExcluded declaration.spelling = true ∨ declaration.linkage = .internal := by
  rw [lowerFunction]
  by_cases hexcluded : naming.isExcluded declaration.spelling = true
  · simp [hexcluded]
  · by_cases hinternal : declaration.linkage = .internal
    · simp [hinternal]
    · simp [hexcluded, hinternal, Outcome.map_eq_ok_iff]

/-- Lowering has no symbols to offer for just the declarations that need none. -/
theorem lower_eq_none_iff :
    mapper.lower naming kind declaration = .ok none ↔ declaration.NeedsNone naming kind := by
  constructor
  · intro h
    cases kind with
    | struct | enumeration =>
        obtain ⟨_, -, hnone⟩ := Outcome.map_eq_ok_iff.mp h
        cases hnone
    | typedef =>
        obtain ⟨symbol, hlowered, hnone⟩ := Outcome.map_eq_ok_iff.mp h
        rw [Option.map_eq_none_iff] at hnone
        subst hnone
        obtain ⟨target, htarget, htagged⟩ := lowerTypedef_eq_none_iff.mp hlowered
        rcases NativeType.isTagged_iff.mp htagged with ⟨_, hrecord⟩ | ⟨_, henum⟩
        · exact .record htarget hrecord
        · exact .enumeration htarget henum
    | function =>
        obtain ⟨symbol, hlowered, hnone⟩ := Outcome.map_eq_ok_iff.mp h
        rw [Option.map_eq_none_iff] at hnone
        subst hnone
        rcases lowerFunction_eq_none_iff.mp hlowered with hexcluded | hinternal
        · exact .excluded hexcluded
        · exact .internal hinternal
  · intro h
    cases h with
    | record targeted resolved =>
        exact Outcome.map_eq_ok_iff.mpr ⟨none, lowerTypedef_eq_none_iff.mpr
          ⟨_, targeted, NativeType.isTagged_iff.mpr (.inl ⟨_, resolved⟩)⟩, rfl⟩
    | enumeration targeted resolved =>
        exact Outcome.map_eq_ok_iff.mpr ⟨none, lowerTypedef_eq_none_iff.mpr
          ⟨_, targeted, NativeType.isTagged_iff.mpr (.inr ⟨_, resolved⟩)⟩, rfl⟩
    | excluded excluded =>
        exact Outcome.map_eq_ok_iff.mpr
          ⟨none, lowerFunction_eq_none_iff.mpr (.inl excluded), rfl⟩
    | internal internal =>
        exact Outcome.map_eq_ok_iff.mpr
          ⟨none, lowerFunction_eq_none_iff.mpr (.inr internal), rfl⟩

/-- Why a declaration may be refused: it cannot be lowered, or a name that its group declares is
taken or declared twice. -/
inductive Refuses (mapper : Mapper) (naming : NamingPolicy) (kind : SymbolKind)
    (declaration : Declaration) : MappingError → Prop
  | lowering {error : MappingError}
      (failed : mapper.lower naming kind declaration = .error error) :
      Refuses mapper naming kind declaration error
  | collision {group : SymbolGroup} {name : String}
      (lowers : mapper.Lowers naming kind declaration group)
      (declares : name ∈ group.declaredNames) :
      Refuses mapper naming kind declaration (.nameCollision name)

end Mapper

/-! ## Processing -/

theorem NameSet.mem_of_firstTaken?_eq_some {taken : NameSet} {names : List String}
    {name : String} (h : taken.firstTaken? names = some name) : name ∈ names := by
  induction names generalizing taken with
  | nil => cases h
  | cons head names ih =>
      rw [firstTaken?] at h
      split at h
      · cases h
        exact List.mem_cons_self
      · exact List.mem_cons_of_mem _ (ih h)

namespace Registry

variable {options : BindingOptions} {registry after later : Registry} {kind : SymbolKind}
  {declaration : Declaration} {group : SymbolGroup}

theorem process_of_isBound (h : registry.isBound kind declaration = true) :
    registry.process options kind declaration = .ok none := by
  rw [process, if_pos h]

/-- How a declaration that is not bound yet is processed, by the outcome of lowering it. -/
theorem process_of_not_isBound (h : registry.isBound kind declaration = false) :
    registry.process options kind declaration =
      match (options.mapper registry.index).lower options.naming kind declaration with
      | .error error => .error error
      | .ok none => .ok none
      | .ok (some group) =>
        match registry.firstConflict? kind.scope group.declaredNames with
        | some name => .error (.nameCollision name)
        | none => .ok (some (group, registry.bind kind group
            ((options.mapper registry.index).holdsNoReference group))) := by
  have hmapper : registry.mapper options.marshalStrings = options.mapper registry.index := rfl
  rw [process, h, if_neg Bool.false_ne_true, hmapper]
  cases hlower : (options.mapper registry.index).lower options.naming kind declaration with
  | error error => simp only [hlower, Bind.bind, Except.bind]
  | ok answer =>
      cases answer with
      | none => simp only [hlower, Bind.bind, Except.bind]
      | some group =>
          cases hconflict : registry.firstConflict? kind.scope group.declaredNames <;>
            simp only [hlower, hconflict, Bind.bind, Except.bind]

theorem process_eq_none_iff :
    registry.process options kind declaration = .ok none ↔
      registry.isBound kind declaration = true ∨ declaration.NeedsNone options.naming kind := by
  have hneeds : (options.mapper registry.index).lower options.naming kind declaration = .ok none ↔
      declaration.NeedsNone options.naming kind := Mapper.lower_eq_none_iff
  rw [← hneeds]
  by_cases hbound : registry.isBound kind declaration = true
  · simp [process_of_isBound hbound, hbound]
  · rw [Bool.not_eq_true] at hbound
    rw [process_of_not_isBound hbound]
    split
    · simp_all
    · simp_all
    · split <;> simp_all

theorem process_eq_some_iff :
    registry.process options kind declaration = .ok (some (group, after)) ↔
      registry.isBound kind declaration = false ∧
        (options.mapper registry.index).Lowers options.naming kind declaration group ∧
        registry.firstConflict? kind.scope group.declaredNames = none ∧
        after = registry.bind kind group
          ((options.mapper registry.index).holdsNoReference group) := by
  rw [← Mapper.lower_eq_ok_iff]
  by_cases hbound : registry.isBound kind declaration = true
  · simp [process_of_isBound hbound, hbound]
  · rw [Bool.not_eq_true] at hbound
    rw [process_of_not_isBound hbound]
    split
    · simp_all
    · simp_all
    · split <;> grind

theorem process_eq_error_iff {error : MappingError} :
    registry.process options kind declaration = .error error ↔
      registry.isBound kind declaration = false ∧
        ((options.mapper registry.index).lower options.naming kind declaration = .error error ∨
          ∃ group name,
            (options.mapper registry.index).Lowers options.naming kind declaration group ∧
            registry.firstConflict? kind.scope group.declaredNames = some name ∧
            error = .nameCollision name) := by
  simp only [← Mapper.lower_eq_ok_iff]
  by_cases hbound : registry.isBound kind declaration = true
  · simp [process_of_isBound hbound, hbound]
  · rw [Bool.not_eq_true] at hbound
    rw [process_of_not_isBound hbound]
    split
    · simp_all
    · simp_all
    · split <;> grind

/-- A later state of a run: it consults the same index, and nothing that was bound or claimed is
forgotten. -/
structure Extends (later earlier : Registry) : Prop where
  index_eq : later.index = earlier.index
  isEmitted : ∀ kind native, earlier.isEmitted kind native = true →
    later.isEmitted kind native = true
  claimed : ∀ scope, ∀ name ∈ earlier.claimed scope, name ∈ later.claimed scope

namespace Extends

theorem refl (registry : Registry) : registry.Extends registry :=
  ⟨rfl, fun _ _ h => h, fun _ _ h => h⟩

theorem trans {middle : Registry} (h : later.Extends middle) (h' : middle.Extends registry) :
    later.Extends registry :=
  ⟨h.index_eq.trans h'.index_eq, fun _ _ hname => h.isEmitted _ _ (h'.isEmitted _ _ hname),
    fun _ _ hname => h.claimed _ _ (h'.claimed _ _ hname)⟩

theorem bind (registry : Registry) (kind : SymbolKind) (group : SymbolGroup) (blittable : Bool) :
    (registry.bind kind group blittable).Extends registry :=
  ⟨index_bind, fun _ _ h => isEmitted_bind.mpr (.inr h),
    fun _ _ h => mem_claimed_bind.mpr (.inr h)⟩

theorem isBound (h : later.Extends registry) (hbound : registry.isBound kind declaration = true) :
    later.isBound kind declaration = true := by
  unfold Registry.isBound at hbound ⊢
  split at hbound
  next native _ => exact h.isEmitted kind native hbound
  next => cases hbound

/-- A group whose names were not free is not free later. -/
theorem exists_conflict (h : later.Extends registry) {scope : NameScope} {names : List String}
    {name : String} (hconflict : registry.firstConflict? scope names = some name) :
    ∃ other, later.firstConflict? scope names = some other := by
  rw [← Option.ne_none_iff_exists']
  intro hfree
  obtain ⟨hnodup, hlater⟩ := NameSet.firstTaken?_eq_none_iff.mp hfree
  have hnone : registry.firstConflict? scope names = none :=
    NameSet.firstTaken?_eq_none_iff.mpr
      ⟨hnodup, fun other hother hclaimed => hlater other hother (h.claimed _ _ hclaimed)⟩
  rw [hnone] at hconflict
  cases hconflict

/-- What was not processed for want of a need is not processed later. -/
theorem process_eq_none (h : later.Extends registry)
    (hnone : registry.process options kind declaration = .ok none) :
    later.process options kind declaration = .ok none := by
  rw [process_eq_none_iff] at hnone ⊢
  exact hnone.imp_left h.isBound

/-- What failed fails later, maybe for another reason, unless it has been bound in between. -/
theorem process_eq_error (h : later.Extends registry) {error : MappingError}
    (herror : registry.process options kind declaration = .error error) :
    later.process options kind declaration = .ok none ∨
      ∃ other, later.process options kind declaration = .error other := by
  by_cases hbound : later.isBound kind declaration = true
  · exact .inl (process_of_isBound hbound)
  · rw [Bool.not_eq_true] at hbound
    rw [process_eq_error_iff, ← h.index_eq] at herror
    simp only [process_eq_error_iff]
    obtain ⟨-, hfailed | ⟨group, name, hlowers, hconflict, -⟩⟩ := herror
    · exact .inr ⟨error, hbound, .inl hfailed⟩
    · obtain ⟨other, hother⟩ := h.exists_conflict hconflict
      exact .inr ⟨.nameCollision other, hbound, .inr ⟨group, other, hlowers, hother, rfl⟩⟩

end Extends

theorem refuses_of_process_eq_error {error : MappingError}
    (h : registry.process options kind declaration = .error error) :
    (options.mapper registry.index).Refuses options.naming kind declaration error := by
  obtain ⟨-, hfailed | ⟨group, name, hlowers, hconflict, rfl⟩⟩ := process_eq_error_iff.mp h
  · exact .lowering hfailed
  · exact .collision hlowers (NameSet.mem_of_firstTaken?_eq_some hconflict)

end Registry

/-! ## Runs -/

namespace BindingRun

variable {options : BindingOptions} {index : SymbolIndex} {run later : BindingRun}
  {work rest : List (SymbolKind × Declaration)} {kind other : SymbolKind}
  {declaration next : Declaration}

/-- Go on with the declarations of some work. -/
def goThrough (options : BindingOptions) (run : BindingRun)
    (work : List (SymbolKind × Declaration)) : BindingRun :=
  work.foldl (fun run (kind, declaration) => run.step options kind declaration) run

@[simp] theorem goThrough_nil : run.goThrough options [] = run := rfl

@[simp] theorem goThrough_cons :
    run.goThrough options ((kind, declaration) :: work) =
      (run.step options kind declaration).goThrough options work := rfl

@[simp] theorem goThrough_append :
    run.goThrough options (work ++ rest) = (run.goThrough options work).goThrough options rest :=
  List.foldl_append

/-- What every step preserves holds of the whole run. -/
theorem goThrough_induction {motive : BindingRun → Prop} (start : motive run)
    (step : ∀ run kind declaration, motive run → motive (run.step options kind declaration)) :
    motive (run.goThrough options work) := by
  induction work generalizing run with
  | nil => exact start
  | cons item work ih =>
      obtain ⟨kind, declaration⟩ := item
      exact ih (step run kind declaration start)

theorem step_of_process_eq_none (h : run.registry.process options kind declaration = .ok none) :
    run.step options kind declaration = run := by
  rw [step, h]

theorem step_of_process_eq_some {group : SymbolGroup} {registry : Registry}
    (h : run.registry.process options kind declaration = .ok (some (group, registry))) :
    run.step options kind declaration = { run with registry, groups := run.groups ++ [group] } := by
  rw [step, h]

theorem step_of_process_eq_error {error : MappingError}
    (h : run.registry.process options kind declaration = .error error) :
    run.step options kind declaration = run.skip (declaration.skipped kind error) := by
  rw [step, h]

/-- The kinds and names of the skipped declarations. -/
def reported (run : BindingRun) : List (SymbolKind × String) := run.skipped.map (·.key)

theorem mem_reported_skip {entry : SkippedSymbol} {key : SymbolKind × String} :
    key ∈ (run.skip entry).reported ↔ key = entry.key ∨ key ∈ run.reported := by
  simp only [reported, List.mem_map, mem_skipped_skip]
  grind

/-- A later state of a run: it knows more, and what was reported stays so. -/
structure Extends (later earlier : BindingRun) : Prop where
  registry : later.registry.Extends earlier.registry
  groups : earlier.groups <+: later.groups
  reported : earlier.reported ⊆ later.reported

namespace Extends

theorem refl (run : BindingRun) : run.Extends run :=
  ⟨.refl _, List.prefix_rfl, List.Subset.refl _⟩

theorem trans {middle : BindingRun} (h : later.Extends middle) (h' : middle.Extends run) :
    later.Extends run :=
  ⟨h.registry.trans h'.registry, h'.groups.trans h.groups,
    List.Subset.trans h'.reported h.reported⟩

theorem step (run : BindingRun) (kind : SymbolKind) (declaration : Declaration) :
    (run.step options kind declaration).Extends run := by
  rcases hprocess : run.registry.process options kind declaration with error | _ | ⟨group, after⟩
  · rw [step_of_process_eq_error hprocess]
    refine ⟨?_, ?_, fun key hkey => mem_reported_skip.mpr (.inr hkey)⟩
    · rw [registry_skip]
      exact .refl _
    · exact ⟨[], by rw [groups_skip, List.append_nil]⟩
  · rw [step_of_process_eq_none hprocess]
    exact .refl run
  · rw [step_of_process_eq_some hprocess]
    obtain ⟨-, -, -, rfl⟩ := Registry.process_eq_some_iff.mp hprocess
    exact ⟨.bind _ _ _ _, List.prefix_append _ _, List.Subset.refl _⟩

theorem goThrough (run : BindingRun) (work : List (SymbolKind × Declaration)) :
    (run.goThrough options work).Extends run :=
  goThrough_induction (.refl run) fun later kind declaration h =>
    (step later kind declaration).trans h

end Extends

/-! ### What is done with -/

/-- Going on with a declaration once more would bind nothing and report nothing new. -/
def IsDone (options : BindingOptions) (run : BindingRun) (kind : SymbolKind)
    (declaration : Declaration) : Prop :=
  run.registry.process options kind declaration = .ok none ∨
    (∃ error, run.registry.process options kind declaration = .error error) ∧
      declaration.reportKey kind ∈ run.reported

/-- A step is done with its declaration. -/
theorem isDone_step : (run.step options kind declaration).IsDone options kind declaration := by
  rcases hprocess : run.registry.process options kind declaration with error | _ | ⟨group, after⟩
  · rw [step_of_process_eq_error hprocess, IsDone, registry_skip]
    exact .inr ⟨⟨error, hprocess⟩, mem_reported_skip.mpr (.inl rfl)⟩
  · rw [step_of_process_eq_none hprocess]
    exact .inl hprocess
  · rw [step_of_process_eq_some hprocess]
    obtain ⟨-, hlowers, -, rfl⟩ := Registry.process_eq_some_iff.mp hprocess
    refine .inl (Registry.process_of_isBound ?_)
    rw [Registry.isBound, hlowers.nativeName_eq]
    exact Registry.isEmitted_bind.mpr (.inl ⟨rfl, rfl⟩)

/-- What is done with stays done with. -/
theorem IsDone.extend (h : run.IsDone options kind declaration) (hlater : later.Extends run) :
    later.IsDone options kind declaration := by
  rcases h with hnone | ⟨⟨error, herror⟩, hreported⟩
  · exact .inl (hlater.registry.process_eq_none hnone)
  · exact (hlater.registry.process_eq_error herror).imp_right
      fun hother => ⟨hother, hlater.reported hreported⟩

/-- A run is done with everything that it has gone through. -/
theorem isDone_of_mem (h : (kind, declaration) ∈ work) :
    (run.goThrough options work).IsDone options kind declaration := by
  obtain ⟨before, after, rfl⟩ := List.append_of_mem h
  rw [goThrough_append, goThrough_cons]
  exact isDone_step.extend (.goThrough _ after)

/-! ### What is reported -/

/-- Every entry reports a declaration of the work and says why it is refused, and no entry is made
twice. -/
structure Reports (options : BindingOptions) (index : SymbolIndex)
    (work : List (SymbolKind × Declaration)) (run : BindingRun) : Prop where
  refused : ∀ entry ∈ run.skipped, ∃ kind declaration error, (kind, declaration) ∈ work ∧
    (options.mapper index).Refuses options.naming kind declaration error ∧
    entry = declaration.skipped kind error
  nodup : run.skipped.Nodup

namespace Reports

theorem start (registry : Registry) : Reports options index [] (.start registry) where
  refused := nofun
  nodup := List.nodup_nil

theorem mono (h : Reports options index work run) {after : BindingRun}
    (hskipped : after.skipped = run.skipped) : Reports options index (work ++ rest) after := by
  refine ⟨fun entry hentry => ?_, hskipped ▸ h.nodup⟩
  obtain ⟨kind, declaration, error, hwork, hrefuses⟩ := h.refused entry (hskipped ▸ hentry)
  exact ⟨kind, declaration, error, List.mem_append_left _ hwork, hrefuses⟩

theorem step (h : Reports options index work run) (hindex : run.registry.index = index) :
    Reports options index (work ++ [(kind, declaration)])
      (run.step options kind declaration) := by
  rcases hprocess : run.registry.process options kind declaration with error | _ | ⟨group, after⟩
  · rw [step_of_process_eq_error hprocess, skip]
    split
    next => exact h.mono rfl
    next hnew =>
      constructor
      · intro entry hentry
        rcases List.mem_append.mp hentry with hold | hlast
        · exact (h.mono rfl).refused entry hold
        · refine ⟨kind, declaration, error, List.mem_append_right _ List.mem_cons_self, ?_,
            List.mem_singleton.mp hlast⟩
          rw [← hindex]
          exact Registry.refuses_of_process_eq_error hprocess
      · refine List.nodup_append.mpr ⟨h.nodup, List.nodup_singleton _, ?_⟩
        rintro entry hentry _ hlast rfl
        exact hnew (List.mem_singleton.mp hlast ▸ hentry)
  · rw [step_of_process_eq_none hprocess]
    exact h.mono rfl
  · rw [step_of_process_eq_some hprocess]
    exact h.mono rfl

theorem goThrough (h : Reports options index work run) (hindex : run.registry.index = index)
    (rest : List (SymbolKind × Declaration)) :
    Reports options index (work ++ rest) (run.goThrough options rest) := by
  induction rest generalizing work run with
  | nil => simpa using h
  | cons item rest ih =>
      obtain ⟨kind, declaration⟩ := item
      rw [goThrough_cons, List.append_cons]
      exact ih (h.step hindex) ((Extends.step run kind declaration).registry.index_eq.trans hindex)

end Reports

end BindingRun

/-! ## Whole runs -/

namespace BindingOptions

variable (options : BindingOptions) (units : List TranslationUnit)

/-- What has become of a declaration: it is bound, it is reported, or it needs no binding. -/
inductive Answers (kind : SymbolKind) (declaration : Declaration) : Prop
  | bound {symbol : BindingSymbol} (bound : symbol ∈ (options.generate units).symbols)
      (kind_eq : symbol.kind = kind)
      (named : declaration.nativeName? kind = some symbol.nativeName)
  | skipped {entry : SkippedSymbol} (skipped : entry ∈ (options.generate units).skipped)
      (kind_eq : entry.kind = kind)
      (named : entry.name = (declaration.nativeName? kind).getD "<anonymous>")
  | unneeded (unneeded : declaration.NeedsNone options.naming kind)

theorem isDone_run (index : SymbolIndex) {kind : SymbolKind} {declaration : Declaration}
    (h : (kind, declaration) ∈ TranslationUnit.agenda units) :
    ((options.registry index).run options units).IsDone options kind declaration :=
  BindingRun.isDone_of_mem h

theorem reports_run (index : SymbolIndex) :
    BindingRun.Reports options index (TranslationUnit.agenda units)
      ((options.registry index).run options units) :=
  (BindingRun.Reports.start (options.registry index)).goThrough rfl _

/-- No declaration is lost in silence: each is bound, reported or one that needs no binding. What
is reported are declarations of the headers that could not be lowered or wanted a name that was
taken, each entry once. -/
theorem declarations_answered :
    (∀ parsed ∈ units, ∀ declaration ∈ parsed.declarations, ∀ kind,
      declaration.bindingKind? = some kind → options.Answers units kind declaration) ∧
    (∀ entry ∈ (options.generate units).skipped,
      ∃ parsed ∈ units, ∃ declaration ∈ parsed.declarations, ∃ kind error,
        declaration.bindingKind? = some kind ∧
        (options.mapper (options.buildIndex units)).Refuses options.naming kind declaration
          error ∧
        entry = declaration.skipped kind error) ∧
    (options.generate units).skipped.Nodup := by
  have haccounts := options.accounts_run units (options.buildIndex units)
  have hreports := options.reports_run units (options.buildIndex units)
  refine ⟨?_, ?_, hreports.nodup⟩
  · intro parsed hparsed declaration hdeclaration kind hkind
    have hdone := options.isDone_run units (options.buildIndex units)
      (TranslationUnit.mem_agenda_iff.mpr ⟨parsed, hparsed, hdeclaration, hkind⟩)
    rcases hdone with hnone | ⟨-, hreported⟩
    · rcases Registry.process_eq_none_iff.mp hnone with hbound | hunneeded
      · obtain ⟨group, hgroup, hmain, hnative⟩ := haccounts.isBound_eq_true hbound
        exact .bound (BindingRun.mem_symbols hgroup SymbolGroup.main_mem_symbols) hmain hnative
      · exact .unneeded hunneeded
    · obtain ⟨entry, hentry, hkey⟩ := List.mem_map.mp hreported
      obtain ⟨hsame, hname⟩ := Prod.mk.inj hkey
      exact .skipped hentry hsame hname
  · intro entry hentry
    obtain ⟨kind, declaration, error, hwork, hrefuses, heq⟩ := hreports.refused entry hentry
    obtain ⟨parsed, hparsed, hdeclaration, hkind⟩ := TranslationUnit.mem_agenda_iff.mp hwork
    exact ⟨parsed, hparsed, declaration, hdeclaration, kind, error, hkind, hrefuses, heq⟩

end BindingOptions

end Interop
