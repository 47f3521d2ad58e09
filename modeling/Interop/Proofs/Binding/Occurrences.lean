import Interop.Proofs.Binding.Answers
import Interop.Proofs.Binding.Claims
import Mathlib.Data.List.Induction
import Mathlib.Order.WellFounded

/-!
# The first occurrence wins

Headers may declare a name more than once. A run tries its occurrences one after another until it
succeeds with one of them: this one gives the binding, and those after it leave the run as it is
(`BindingOptions.first_occurrence_wins`). What carries this through a run is that its list of bound
declarations tells just what its groups bind, each once (`BindingRun.BindsOnce`).
-/

namespace Interop

/-- The native declaration that a group binds. -/
def SymbolGroup.key (group : SymbolGroup) : SymbolKind × String :=
  (group.main.kind, group.main.nativeName)

namespace BindingRun

variable {options : BindingOptions} {run later : BindingRun} {kind : SymbolKind} {native : String}
  {declaration : Declaration} {group : SymbolGroup} {registry : Registry}

theorem binds_iff_mem : run.Binds kind native ↔ (kind, native) ∈ run.groups.map (·.key) := by
  simp [Binds, SymbolGroup.key]

theorem Binds.extend (h : run.Binds kind native) (hlater : later.Extends run) :
    later.Binds kind native := by
  obtain ⟨group, hgroup, hnames⟩ := h
  exact ⟨group, hlater.groups.subset hgroup, hnames⟩

/-- The list of bound declarations is that of the groups, and none is bound twice. -/
structure BindsOnce (run : BindingRun) : Prop where
  isEmitted_iff : ∀ kind native,
    run.registry.isEmitted kind native = true ↔ run.Binds kind native
  nodup : (run.groups.map (·.key)).Nodup

namespace BindsOnce

theorem start (options : BindingOptions) (index : SymbolIndex) :
    BindsOnce (.start (options.registry index)) where
  isEmitted_iff kind native := by
    simp [BindingRun.start, Binds, BindingOptions.registry, Registry.ofIndex, Registry.isEmitted,
      Registry.claim]
  nodup := List.nodup_nil

theorem isBound_iff (h : BindsOnce run) (hnative : declaration.nativeName? kind = some native) :
    run.registry.isBound kind declaration = true ↔ run.Binds kind native := by
  rw [Registry.isBound, hnative]
  exact h.isEmitted_iff kind native

theorem step (h : BindsOnce run) : BindsOnce (run.step options kind declaration) := by
  rcases hprocess : run.registry.process options kind declaration with error | _ | ⟨group, after⟩
  · rw [step_of_process_eq_error hprocess]
    constructor
    · rw [registry_skip]
      simpa [Binds] using h.isEmitted_iff
    · rw [groups_skip]
      exact h.nodup
  · rw [step_of_process_eq_none hprocess]
    exact h
  · rw [step_of_process_eq_some hprocess]
    obtain ⟨hbound, hlowers, -, rfl⟩ := Registry.process_eq_some_iff.mp hprocess
    have hkeyed : group.key = (kind, group.main.nativeName) := by
      rw [SymbolGroup.key, hlowers.kind_main]
    constructor
    · intro other name
      rw [Registry.isEmitted_bind, h.isEmitted_iff, binds_iff_mem, binds_iff_mem,
        List.map_append, List.mem_append, or_comm]
      simp [hkeyed]
    · rw [List.map_append, List.map_singleton, hkeyed]
      refine List.nodup_append.mpr ⟨h.nodup, List.nodup_singleton _, ?_⟩
      -- a declaration that some group binds would not have been lowered again
      rintro key hkey _ hlast rfl
      rw [List.mem_singleton.mp hlast, ← binds_iff_mem, ← h.isBound_iff hlowers.nativeName_eq,
        hbound] at hkey
      cases hkey

theorem goThrough (h : BindsOnce run) (work : List (SymbolKind × Declaration)) :
    BindsOnce (run.goThrough options work) :=
  goThrough_induction h fun _ _ _ honce => honce.step

/-- A native declaration is bound by one group. -/
theorem filter_key (h : BindsOnce run) (hgroup : group ∈ run.groups) :
    run.groups.filter (fun other => other.key = group.key) = [group] := by
  obtain ⟨before, after, hsplit⟩ := List.append_of_mem hgroup
  have hnodup := h.nodup
  rw [hsplit, List.map_append, List.map_cons, List.nodup_middle, List.nodup_cons,
    ← List.map_append] at hnodup
  have hother : ∀ other ∈ before ++ after, ¬ other.key = group.key :=
    fun other hmem heq => hnodup.1 (heq ▸ List.mem_map_of_mem hmem)
  rw [hsplit, List.filter_append, List.filter_cons_of_pos (by simp),
    List.filter_eq_nil_iff.mpr fun other hmem => by
      simpa using hother other (List.mem_append_left _ hmem),
    List.filter_eq_nil_iff.mpr fun other hmem => by
      simpa using hother other (List.mem_append_right _ hmem),
    List.nil_append]

end BindsOnce

end BindingRun

/-! ## Occurrences -/

/-- A place in the work of a run where a native declaration occurs. -/
structure Occurrence (work : List (SymbolKind × Declaration)) (kind : SymbolKind)
    (native : String) where
  before : List (SymbolKind × Declaration)
  declaration : Declaration
  after : List (SymbolKind × Declaration)
  split : work = before ++ (kind, declaration) :: after
  named : declaration.nativeName? kind = some native

namespace Occurrence

variable {options : BindingOptions} {index : SymbolIndex}
  {work : List (SymbolKind × Declaration)} {kind : SymbolKind} {native : String}
  {first second : Occurrence work kind native} {group : SymbolGroup}

/-- The run that comes to an occurrence. -/
def state (options : BindingOptions) (index : SymbolIndex)
    (occurrence : Occurrence work kind native) : BindingRun :=
  (BindingRun.start (options.registry index)).goThrough options occurrence.before

/-- The run binds the declaration at this occurrence. -/
def Succeeds (options : BindingOptions) (index : SymbolIndex)
    (occurrence : Occurrence work kind native) (group : SymbolGroup) : Prop :=
  ∃ registry, (occurrence.state options index).registry.process options kind
    occurrence.declaration = .ok (some (group, registry))

/-- One occurrence comes before another. -/
def Precedes (first second : Occurrence work kind native) : Prop :=
  first.before.length < second.before.length

theorem Precedes.prefix_before (h : first.Precedes second) :
    first.before ++ [(kind, first.declaration)] <+: second.before := by
  have hfirst : first.before ++ [(kind, first.declaration)] <+: work :=
    ⟨first.after, (List.append_cons _ _ _).symm.trans first.split.symm⟩
  have hsecond : second.before <+: work := ⟨_, second.split.symm⟩
  refine List.prefix_of_prefix_length_le hfirst hsecond ?_
  rw [List.length_append]
  exact h

variable {occurrence : Occurrence work kind native}

theorem Succeeds.lowers (h : occurrence.Succeeds options index group) :
    (options.mapper index).Lowers options.naming kind occurrence.declaration group := by
  obtain ⟨registry, hprocess⟩ := h
  have hindex : (occurrence.state options index).registry.index = index :=
    (BindingRun.Extends.goThrough _ occurrence.before).registry.index_eq
  rw [← hindex]
  exact (Registry.process_eq_some_iff.mp hprocess).2.1

theorem Succeeds.key_eq (h : occurrence.Succeeds options index group) :
    group.key = (kind, native) := by
  have hnative := h.lowers.nativeName_eq
  rw [occurrence.named] at hnative
  rw [SymbolGroup.key, h.lowers.kind_main, ← Option.some.inj hnative]

/-- A success binds the declaration for the rest of the run. -/
theorem Succeeds.mem_groups (h : occurrence.Succeeds options index group) {run : BindingRun}
    (hrun : run.Extends ((occurrence.state options index).step options kind
      occurrence.declaration)) : group ∈ run.groups := by
  obtain ⟨registry, hprocess⟩ := h
  refine hrun.groups.subset ?_
  rw [BindingRun.step_of_process_eq_some hprocess]
  exact List.mem_append_right _ List.mem_cons_self

theorem Succeeds.mem_goThrough (h : occurrence.Succeeds options index group) :
    group ∈ ((BindingRun.start (options.registry index)).goThrough options work).groups := by
  have hrun := congrArg (BindingRun.goThrough options (.start (options.registry index)))
    occurrence.split
  rw [BindingRun.goThrough_append, BindingRun.goThrough_cons] at hrun
  refine h.mem_groups ?_
  rw [hrun]
  exact .goThrough _ occurrence.after

/-- The same occurrence in longer work. -/
def append (occurrence : Occurrence work kind native) (rest : List (SymbolKind × Declaration)) :
    Occurrence (work ++ rest) kind native where
  before := occurrence.before
  declaration := occurrence.declaration
  after := occurrence.after ++ rest
  split := by
    conv_lhs => rw [occurrence.split]
    rw [List.append_assoc, List.cons_append]
  named := occurrence.named

/-- What a run binds it has bound at some occurrence. -/
theorem exists_succeeds
    (h : ((BindingRun.start (options.registry index)).goThrough options work).Binds kind native) :
    ∃ (occurrence : Occurrence work kind native) (group : SymbolGroup),
      occurrence.Succeeds options index group := by
  induction work using List.reverseRecOn with
  | nil =>
      obtain ⟨group, hgroup, -⟩ := h
      exact absurd hgroup List.not_mem_nil
  | append_singleton work item ih =>
      obtain ⟨last, declaration⟩ := item
      rw [BindingRun.goThrough_append, BindingRun.goThrough_cons, BindingRun.goThrough_nil] at h
      rcases hprocess : ((BindingRun.start (options.registry index)).goThrough options
        work).registry.process options last declaration with error | _ | ⟨group, after⟩
      · rw [BindingRun.step_of_process_eq_error hprocess, BindingRun.Binds,
          BindingRun.groups_skip] at h
        obtain ⟨occurrence, group, hsucceeds⟩ := ih h
        exact ⟨occurrence.append _, group, hsucceeds⟩
      · rw [BindingRun.step_of_process_eq_none hprocess] at h
        obtain ⟨occurrence, group, hsucceeds⟩ := ih h
        exact ⟨occurrence.append _, group, hsucceeds⟩
      · rw [BindingRun.step_of_process_eq_some hprocess] at h
        obtain ⟨other, hother, hkind, hnative⟩ := h
        rcases List.mem_append.mp hother with hearlier | hlast
        · obtain ⟨occurrence, found, hsucceeds⟩ := ih ⟨other, hearlier, hkind, hnative⟩
          exact ⟨occurrence.append _, found, hsucceeds⟩
        · have hlowers := (Registry.process_eq_some_iff.mp hprocess).2.1
          rw [List.mem_singleton.mp hlast, hlowers.kind_main] at hkind
          subst hkind
          rw [List.mem_singleton.mp hlast] at hnative
          exact ⟨⟨work, declaration, [], rfl, hnative ▸ hlowers.nativeName_eq⟩, group, after,
            hprocess⟩

/-- Among the occurrences at which a run succeeds there is a first one. -/
theorem Succeeds.exists_first (h : occurrence.Succeeds options index group) :
    ∃ (first : Occurrence work kind native) (found : SymbolGroup),
      first.Succeeds options index found ∧
      ∀ earlier : Occurrence work kind native, earlier.Precedes first →
        ∀ other, ¬ earlier.Succeeds options index other := by
  obtain ⟨first, ⟨found, hfound⟩, hmin⟩ :=
    (measure fun other : Occurrence work kind native => other.before.length).wf.has_min
      {other | ∃ group, other.Succeeds options index group} ⟨occurrence, group, h⟩
  exact ⟨first, found, hfound, fun earlier hearlier other hother =>
    hmin earlier ⟨other, hother⟩ hearlier⟩

/-- After a success the run passes over the later occurrences. -/
theorem Succeeds.step_later (h : first.Succeeds options index group)
    (hlater : first.Precedes second) :
    (second.state options index).step options kind second.declaration =
      second.state options index := by
  -- the run that comes to the later occurrence goes on from the one that has bound the first
  obtain ⟨between, hbetween⟩ := hlater.prefix_before
  have hextends : (second.state options index).Extends
      ((first.state options index).step options kind first.declaration) := by
    rw [state, ← hbetween, BindingRun.goThrough_append, BindingRun.goThrough_append]
    exact .goThrough _ between
  have honce : (second.state options index).BindsOnce :=
    (BindingRun.BindsOnce.start options index).goThrough second.before
  refine BindingRun.step_of_process_eq_none (Registry.process_of_isBound ?_)
  rw [honce.isBound_iff second.named, BindingRun.binds_iff_mem, ← h.key_eq]
  exact List.mem_map_of_mem (h.mem_groups hextends)

end Occurrence

namespace TranslationUnit

/-- The declarations of a kind come header by header, in the order of the source. -/
theorem filter_agenda (units : List TranslationUnit) (kind : SymbolKind) :
    (agenda units).filter (fun work => work.1 = kind) =
      ((units.flatMap (·.declarations)).filter fun declaration =>
        declaration.bindingKind? = some kind).map fun declaration => (kind, declaration) := by
  have hnone : units.flatMap (fun _ => ([] : List (SymbolKind × Declaration))) = [] := by simp
  simp only [agenda, List.filter_flatMap, List.filter_map, Function.comp_def, List.map_flatMap]
  cases kind <;> simp [SymbolKind.passes, hnone]

end TranslationUnit

namespace BindingOptions

/-- The first occurrence with which a run succeeds gives the only group for a native declaration,
whatever index the run consults; there is no group only if the run succeeds with no occurrence.
Later occurrences change nothing. Occurrences are in the order of headers and source. -/
theorem first_occurrence_wins (options : BindingOptions) (units : List TranslationUnit)
    (index : SymbolIndex) (kind : SymbolKind) (native : String) :
    let bound := ((options.registry index).run options units).groups.filter
      fun group => group.key = (kind, native)
    ((bound = [] ∧ ∀ (occurrence : Occurrence (TranslationUnit.agenda units) kind native) group,
        ¬ occurrence.Succeeds options index group) ∨
      ∃ (first : Occurrence (TranslationUnit.agenda units) kind native) (group : SymbolGroup),
        bound = [group] ∧ first.Succeeds options index group ∧
        (options.mapper index).lower options.naming kind first.declaration = .ok (some group) ∧
        (∀ earlier : Occurrence (TranslationUnit.agenda units) kind native,
          earlier.Precedes first → ∀ other, ¬ earlier.Succeeds options index other) ∧
        ∀ later, first.Precedes later →
          (later.state options index).step options kind later.declaration =
            later.state options index) ∧
      (TranslationUnit.agenda units).filter (fun work => work.1 = kind) =
        ((units.flatMap (·.declarations)).filter fun declaration =>
          declaration.bindingKind? = some kind).map fun declaration => (kind, declaration) := by
  intro bound
  refine ⟨?_, TranslationUnit.filter_agenda units kind⟩
  have honce : ((options.registry index).run options units).BindsOnce :=
    (BindingRun.BindsOnce.start options index).goThrough (TranslationUnit.agenda units)
  by_cases hbinds : ((options.registry index).run options units).Binds kind native
  · obtain ⟨occurrence, group, hsucceeds⟩ := Occurrence.exists_succeeds hbinds
    obtain ⟨first, found, hfound, hfirst⟩ := hsucceeds.exists_first
    have hunique := honce.filter_key hfound.mem_goThrough
    rw [hfound.key_eq] at hunique
    exact .inr ⟨first, found, hunique, hfound, Mapper.lower_eq_ok_iff.mpr hfound.lowers, hfirst,
      fun later hlater => hfound.step_later hlater⟩
  · refine .inl ⟨?_, fun occurrence group hsucceeds => hbinds ?_⟩
    · refine List.filter_eq_nil_iff.mpr fun group hgroup hkey => hbinds ?_
      rw [BindingRun.binds_iff_mem, ← of_decide_eq_true hkey]
      exact List.mem_map_of_mem hgroup
    · rw [BindingRun.binds_iff_mem, ← hsucceeds.key_eq]
      exact List.mem_map_of_mem hsucceeds.mem_goThrough

end BindingOptions

end Interop
