import Interop.Proofs.Binding.References
import Interop.Proofs.Binding.Settling
import Interop.Proofs.Lowering.Growth
import Mathlib.Data.List.Chain

/-!
# The index only grows

Round after round the index grows, as long as no names collide and the headers do not contradict
themselves. What carries this from one round to the next is an index that is right about its
typedefs and lies within the one it leads to: then the next run lowers all that this one lowered
and keeps it free of managed references (`Mapper.Lowers.grows`), and no name is in its way.
-/

namespace Interop

namespace TranslationUnit

variable (units : List TranslationUnit)

/-- The integer type of an enumeration is not that of a function. -/
def EnumsCallNothing : Prop :=
  ∀ type ∈ types units, ∀ integer ∈ type.enumInteger?, integer.signature? = none

instance : Decidable (EnumsCallNothing units) :=
  inferInstanceAs (Decidable (∀ type ∈ types units, ∀ integer ∈ type.enumInteger?,
    integer.signature? = none))

end TranslationUnit

namespace BindingOptions

variable (options : BindingOptions) (units : List TranslationUnit)

/-- The indices consulted in at most so many rounds from an index. -/
def consulted : Nat → SymbolIndex → List SymbolIndex
  | 0, _ => []
  | rounds + 1, index =>
    index :: if options.discover units index = index then []
      else consulted rounds (options.discover units index)

/-- The indices that the rounds for some headers consult, from the empty one on. -/
def rounds : List SymbolIndex := options.consulted units maxRounds ∅

/-- The run with an index skips a declaration because a name of it is taken. -/
def ReportsCollision (index : SymbolIndex) : Prop :=
  ∃ entry ∈ ((options.registry index).run options units).skipped, ∃ name,
    entry.reason = (MappingError.nameCollision name).message

/-- Settling answers with the index that the last round discovers. -/
theorem settle_eq_getLast (count : Nat) (index : SymbolIndex) :
    ((options.consulted units (count + 1) index).map (options.discover units)).getLast? =
      some (options.settle units (count + 1) index) := by
  induction count generalizing index with
  | zero =>
      rw [consulted, settle]
      by_cases hsettled : options.discover units index = index
      · simp [hsettled]
      · simp [hsettled, consulted, settle]
  | succ count ih =>
      rw [consulted, settle]
      by_cases hsettled : options.discover units index = index
      · simp [hsettled]
      · rw [if_neg hsettled, if_neg hsettled, List.map_cons, List.getLast?_cons, ih]
        rfl

/-- The index for some headers is what the last of the rounds discovers. -/
theorem buildIndex_eq_getLast :
    ((options.rounds units).map (options.discover units)).getLast? =
      some (options.buildIndex units) :=
  options.settle_eq_getLast units 31 ∅

variable {options units}

theorem mem_consulted_or_settle (count : Nat) (index : SymbolIndex) :
    index ∈ options.consulted units count index ++ [options.settle units count index] := by
  cases count with
  | zero => exact List.mem_cons_self
  | succ count => exact List.mem_cons_self

end BindingOptions

namespace BindingRun.Accounts

open TranslationUnit

variable {options : BindingOptions} {units : List TranslationUnit} {index : SymbolIndex}
  {run : BindingRun}

/-- A record lifted out of a declaration is not emitted under the name of a declaration. -/
theorem emittedName_ne_of_mem_hoisted (h : Accounts options index (agenda units) run)
    {group other : SymbolGroup} (hgroup : group ∈ run.groups) (hother : other ∈ run.groups)
    (hscope : group.main.kind.scope = other.main.kind.scope) {symbol : BindingSymbol}
    (hsymbol : symbol ∈ group.hoisted) : symbol.emittedName ≠ other.main.emittedName := by
  intro heq
  have hhoisted := SymbolGroup.emittedName_mem_declaredNames
    (SymbolGroup.mem_symbols_of_mem_hoisted hsymbol)
  have hmain := SymbolGroup.emittedName_mem_declaredNames other.main_mem_symbols
  rw [← heq] at hmain
  cases h.eq_of_mem_declaredNames hgroup hother hscope hhoisted hmain
  have hnodup := (List.nodup_flatMap.mp (h.distinct group.main.kind.scope)).1 group
    (List.mem_filter.mpr ⟨hgroup, by simp⟩)
  have hsymbols : (group.symbols.map (·.emittedName)).Nodup := (List.nodup_append.mp hnodup).1
  rw [SymbolGroup.symbols, List.map_append, List.nodup_append] at hsymbols
  exact hsymbols.2.2 _ (List.mem_map_of_mem hsymbol) _ (List.mem_map_of_mem List.mem_cons_self) heq

/-- A record lifted out of a bound declaration is not listed, if all that the index lists is bound
again. -/
theorem not_lists_of_mem_hoisted (h : Accounts options index (agenda units) run)
    (within : index.Within run.registry.discovered) (nameless : AnonymousRecordsNameless units)
    {group : SymbolGroup} (hgroup : group ∈ run.groups) {symbol : BindingSymbol}
    (hsymbol : symbol ∈ group.hoisted) : ¬ index.Lists symbol.nativeName := by
  intro hlists
  obtain ⟨kind, declaration, hwork, hlowers⟩ := h.lowered group hgroup
  obtain ⟨other, hname⟩ := SymbolIndex.lists_iff.mp (within.lists hlists)
  obtain ⟨hkind, bound, hbound, rfl, hnative⟩ := (h.mem_names other _).mp hname
  cases hlowers with
  | record named lowered =>
      have hemitted := Mapper.emittedName_of_mem_hoisted lowered
        (fun node hnode => nameless node (nodes_of_mem_agenda hwork hnode)) hsymbol
      have hscope : group.main.kind.scope = bound.main.kind.scope := by
        rw [(Mapper.main_of_lowerRecordAs lowered).1, SymbolKind.scope_of_ne_function hkind]
        rfl
      refine h.emittedName_ne_of_mem_hoisted hgroup hbound hscope hsymbol ?_
      rw [hemitted, (h.declaresType_main hbound hkind).2, hnative, ManagedType.source]
  | delegate | wrapper | enumeration | function => simp [SymbolGroup.single] at hsymbol

/-- What a run discovers is right about typedefs. -/
theorem rightOn (h : Accounts options index (agenda units) run) (agree : TypedefsAgree units) :
    Mapper.RightOn run.registry.discovered (types units) := by
  constructor
  · intro name halias henum
    have hkinds : SymbolKind.typedef = .enumeration := h.eq_of_mem_names halias henum
    cases hkinds
  · intro type htype name underlying hkind halias hblittable
    obtain ⟨group, hgroup, hplain, hnative⟩ := (h.mem_blittable name).mp hblittable
    obtain ⟨kind, declaration, hwork, hlowers⟩ := h.lowered group hgroup
    have hname := hlowers.nativeName_eq
    rw [hnative] at hname
    cases hlowers with
    | @wrapper _ target _ targeted _ object _ =>
        rw [← agree.target_eq htype hkind hwork (Option.some.inj hname) targeted]
        exact object
    | record named lowered =>
        have hrecord : name ∈ run.registry.discovered.names .struct :=
          (h.mem_names _ _).mpr ⟨nofun, group, hgroup,
            (Mapper.main_of_lowerRecordAs lowered).1, hnative⟩
        have hkinds : SymbolKind.struct = .typedef := h.eq_of_mem_names hrecord halias
        cases hkinds
    | delegate | enumeration | function => cases hplain

/-- The index that a run discovers knows enough of typedefs to map whatever the run mapped. -/
theorem grows (h : Accounts options index (agenda units) run)
    (within : index.Within run.registry.discovered)
    (right : Mapper.RightOn index (types units)) (agree : TypedefsAgree units)
    (numbers : EnumsCallNothing units) :
    Mapper.Grows (options.mapper index) (options.mapper run.registry.discovered)
      (types units) := by
  refine ⟨rfl, within, right, ?_⟩
  intro type htype name underlying hkind halias position scope mapped hmaps hstored hplain hobject
  have hlisted : name ∈ run.registry.discovered.names .typedef := halias
  obtain ⟨group, hgroup, declaration, hwork, hlowers, hname, hnative⟩ :=
    h.exists_lowered_of_mem_names hlisted
  refine (h.mem_blittable name).mpr ⟨group, hgroup, ?_, hnative⟩
  cases hlowers with
  | delegate targeted _ function =>
      rw [agree.target_eq htype hkind hwork (Option.some.inj hname) targeted, hobject] at function
      cases function
  | wrapper targeted _ _ wrapped =>
      cases agree.target_eq htype hkind hwork (Option.some.inj hname) targeted
      have hparts := parts_of_typedefTarget? hwork targeted
      exact hmaps.isBlittable_aliasTarget hstored hplain hobject
        (fun part hpart => numbers part (hparts hpart)) rfl wrapped

end BindingRun.Accounts

namespace BindingOptions

open TranslationUnit

variable {options : BindingOptions} {units : List TranslationUnit} {index : SymbolIndex}

/-- An index that is right about typedefs and lies within the one that it leads to. -/
structure Rising (options : BindingOptions) (units : List TranslationUnit) (index : SymbolIndex) :
    Prop where
  right : Mapper.RightOn index (types units)
  within : index.Within (options.discover units index)

theorem rising_empty : Rising options units ∅ := by
  have hnone := NameSet.not_mem_empty
  constructor
  · constructor
    · exact fun name hname => absurd hname (hnone name)
    · exact fun type _ name underlying _ hname => absurd hname (hnone name)
  · constructor <;> exact fun name hname => absurd hname (hnone name)

/-- What one run binds the next one binds too, unless a name is taken. -/
theorem Rising.exists_group (h : Rising options units index) (unique : NamesDetermine units)
    (agree : TypedefsAgree units) (nameless : AnonymousRecordsNameless units)
    (numbers : EnumsCallNothing units)
    (free : ¬ options.ReportsCollision units (options.discover units index)) {group : SymbolGroup}
    (hgroup : group ∈ ((options.registry index).run options units).groups) :
    ∃ group' ∈ ((options.registry (options.discover units index)).run options units).groups,
      group'.main.kind = group.main.kind ∧ group'.main.nativeName = group.main.nativeName ∧
      ((options.mapper index).holdsNoReference group = true →
        (options.mapper (options.discover units index)).holdsNoReference group' = true) := by
  have hrun := options.accounts_run units index
  have hnext := options.accounts_run units (options.discover units index)
  obtain ⟨kind, declaration, hwork, hlowers⟩ := hrun.lowered group hgroup
  obtain ⟨group', hlowers', hplain⟩ := hlowers.grows
    (hrun.grows h.within h.right agree numbers) (types_of_mem_agenda hwork)
    fun symbol hsymbol => hrun.not_lists_of_mem_hoisted h.within nameless hgroup hsymbol
  rcases hnext.served kind declaration hwork group' hlowers' with
    ⟨bound, hbound, hkind, hnative⟩ | ⟨name, hname⟩
  · obtain ⟨kind', declaration', hwork', hother⟩ := hnext.lowered bound hbound
    have hsame : kind' = kind := by rw [← hother.kind_main, hkind]
    subst hsame
    have hnames : declaration'.nativeName? kind' = some group'.main.nativeName := by
      rw [hother.nativeName_eq, hnative]
    cases unique _ _ _ _ hwork' hwork hnames hlowers'.nativeName_eq
    have heq : bound = group' := by
      have := (Mapper.lower_eq_ok_iff.mpr hother).symm.trans (Mapper.lower_eq_ok_iff.mpr hlowers')
      exact Option.some.inj (Except.ok.inj this)
    subst heq
    refine ⟨bound, hbound, hkind.trans hlowers.kind_main.symm, ?_, hplain⟩
    exact Option.some.inj (hlowers'.nativeName_eq.symm.trans hlowers.nativeName_eq)
  · exact absurd ⟨_, hname, name, rfl⟩ free

/-- The index that a run discovers is rising when the consulted one is and no names collide. -/
theorem Rising.discover (h : Rising options units index) (unique : NamesDetermine units)
    (agree : TypedefsAgree units) (nameless : AnonymousRecordsNameless units)
    (numbers : EnumsCallNothing units)
    (free : ¬ options.ReportsCollision units (options.discover units index)) :
    Rising options units (options.discover units index) := by
  have hrun := options.accounts_run units index
  have hnext := options.accounts_run units (options.discover units index)
  have hnames : ∀ kind, ∀ name ∈ (options.discover units index).names kind,
      name ∈ (options.discover units (options.discover units index)).names kind := by
    intro kind name hname
    obtain ⟨hkind, group, hgroup, rfl, rfl⟩ := (hrun.mem_names kind name).mp hname
    obtain ⟨group', hgroup', hsame, hnative, -⟩ :=
      h.exists_group unique agree nameless numbers free hgroup
    exact (hnext.mem_names _ _).mpr ⟨hkind, group', hgroup', hsame, hnative⟩
  refine ⟨hrun.rightOn agree, hnames .struct, hnames .enumeration, hnames .typedef, ?_⟩
  intro name hname
  obtain ⟨group, hgroup, hplain, rfl⟩ := (hrun.mem_blittable name).mp hname
  obtain ⟨group', hgroup', -, hnative, hkeeps⟩ :=
    h.exists_group unique agree nameless numbers free hgroup
  exact (hnext.mem_blittable _).mpr ⟨group', hgroup', hkeeps hplain, hnative⟩

/-- From a rising index the rounds discover larger and larger ones. -/
theorem Rising.settle (unique : NamesDetermine units) (agree : TypedefsAgree units)
    (nameless : AnonymousRecordsNameless units) (numbers : EnumsCallNothing units) (count : Nat)
    (h : Rising options units index)
    (free : ∀ other ∈ options.consulted units count index ++ [options.settle units count index],
      ¬ options.ReportsCollision units other) :
    ((options.consulted units count index).map (options.discover units)).IsChain
        SymbolIndex.Within ∧ Rising options units (options.settle units count index) := by
  induction count generalizing index with
  | zero => exact ⟨.nil, h⟩
  | succ count ih =>
      rw [consulted, BindingOptions.settle] at free ⊢
      by_cases hsettled : options.discover units index = index
      · simpa [hsettled] using h
      · simp only [if_neg hsettled] at free ⊢
        have hlater : ∀ other ∈ options.consulted units count (options.discover units index) ++
            [options.settle units count (options.discover units index)],
            ¬ options.ReportsCollision units other :=
          fun other hother => free other (List.mem_cons_of_mem _ hother)
        have hnext : Rising options units (options.discover units index) :=
          h.discover unique agree nameless numbers
            (hlater _ (mem_consulted_or_settle count (options.discover units index)))
        obtain ⟨hchain, hfinal⟩ := ih hnext hlater
        refine ⟨?_, hfinal⟩
        rw [List.map_cons]
        refine hchain.cons fun other hother => ?_
        cases count with
        | zero => simp [consulted] at hother
        | succ count =>
            rw [consulted, List.map_cons, List.head?_cons, Option.mem_some] at hother
            rw [← hother]
            exact hnext.within

/-- Every round discovers all that the round before it discovered, and the last run all that the
rounds have settled on, when no two declarations share kind and name, typedefs agree with their
declarations, records that are anonymous members have no names, no enumeration is over a function
type, and no run finds a name taken. -/
theorem discovered_grows (options : BindingOptions) (units : List TranslationUnit)
    (distinct : (keys units).Nodup) (agree : TypedefsAgree units)
    (nameless : AnonymousRecordsNameless units) (numbers : EnumsCallNothing units)
    (free : ∀ index ∈ options.rounds units ++ [options.buildIndex units],
      ¬ options.ReportsCollision units index) :
    ((options.rounds units).map (options.discover units)).IsChain SymbolIndex.Within ∧
      (options.buildIndex units).Within (options.discover units (options.buildIndex units)) := by
  obtain ⟨hchain, hfinal⟩ := Rising.settle (namesDetermine_of_nodup distinct) agree nameless
    numbers maxRounds rising_empty free
  exact ⟨hchain, hfinal.within⟩

instance (small large : SymbolIndex) : Decidable (small.Within large) :=
  decidable_of_iff
    ((∀ name ∈ small.records.toList, name ∈ large.records) ∧
      (∀ name ∈ small.enums.toList, name ∈ large.enums) ∧
      (∀ name ∈ small.aliases.toList, name ∈ large.aliases) ∧
      ∀ name ∈ small.blittable.toList, name ∈ large.blittable)
    ⟨fun h => ⟨h.1, h.2.1, h.2.2.1, h.2.2.2⟩,
      fun h => ⟨h.records, h.enums, h.aliases, h.blittable⟩⟩

/-- Only a collision is reported with a text that starts with `name`. -/
theorem not_reportsCollision
    (h : ∀ entry ∈ ((options.registry index).run options units).skipped,
      ¬ "name ".toList <+: entry.reason.toList) : ¬ options.ReportsCollision units index := by
  rintro ⟨entry, hentry, name, hreason⟩
  refine h entry hentry ?_
  rw [hreason]
  unfold MappingError.message
  rw [String.toList_append, String.toList_append, List.append_assoc]
  exact ⟨_, rfl⟩

/-- Structures that hold one another, declared before what they hold. -/
def nested : List TranslationUnit :=
  [.ofDeclarations "nested.h" [
    .ofStruct "Outer" [.ofField "inner" (.ofAlias "Middle" (.record "Inner"))],
    .ofAlias "Middle" (.record "Inner"),
    .ofStruct "Inner" [.ofStruct "" [.ofField "x" .int],
      .ofField "at" (.array (.anonymousRecord false) 2)]]]

theorem discovered_grows_nested :
    (sample.rounds nested).map (fun index => (sample.discover nested index).records.toList) =
        [["Inner"], ["Inner", "Outer"], ["Inner", "Outer"]] ∧
      ((sample.rounds nested).map (sample.discover nested)).IsChain SymbolIndex.Within ∧
      (sample.buildIndex nested).Within (sample.discover nested (sample.buildIndex nested)) := by
  have hskipped : ∀ index ∈ sample.rounds nested ++ [sample.buildIndex nested],
      ∀ entry ∈ ((sample.registry index).run sample nested).skipped,
        ¬ "name ".toList <+: entry.reason.toList := by decide +kernel
  refine ⟨by decide +kernel, discovered_grows sample nested (by decide +kernel)
    (by decide +kernel) (by decide +kernel) (by decide +kernel) ?_⟩
  intro index hindex
  exact not_reportsCollision (hskipped index hindex)

/-- A named record that is a member by itself: its own name, not the one it is emitted under, is
taken for that of a record without managed references. -/
def namedMembers : List TranslationUnit :=
  let member (name : String) : Declaration :=
    { Declaration.ofStruct name [.ofField "a" .int] with isAnonymousMember := true }
  [.ofDeclarations "r.h" [
    .ofStruct "R" [.ofStruct "" [member "R_Anonymous0"],
      .ofField "p" (.pointer (.anonymousRecord false)),
      member "X",
      .ofField "f" (.ofAlias "T" (.record "X"))],
    .ofStruct "X" [.ofField "s" .text],
    .ofAlias "T" (.record "X")]]

/-- An enumeration over a function pointer, in a union. -/
def overlappingCalls : List TranslationUnit :=
  let code : NativeType := ⟨.enumeration none .callback, some ⟨8, 8⟩, false⟩
  [.ofDeclarations "v.h" [
    .ofUnion "V" [.ofField "f" (.ofAlias "T" code)],
    .ofAlias "T" code]]

/-- With named records as anonymous members, or with an enumeration over a function pointer, a later
round may discover less than the one before it. -/
theorem not_isChain_of_named_or_calls :
    ((TranslationUnit.keys namedMembers).Nodup ∧ TypedefsAgree namedMembers ∧
      EnumsCallNothing namedMembers ∧
      (∀ index ∈ sample.rounds namedMembers ++ [sample.buildIndex namedMembers],
        ¬ sample.ReportsCollision namedMembers index) ∧
      ¬ ((sample.rounds namedMembers).map (sample.discover namedMembers)).IsChain
        SymbolIndex.Within) ∧
    (TranslationUnit.keys overlappingCalls).Nodup ∧ TypedefsAgree overlappingCalls ∧
      AnonymousRecordsNameless overlappingCalls ∧
      (∀ index ∈ sample.rounds overlappingCalls ++ [sample.buildIndex overlappingCalls],
        ¬ sample.ReportsCollision overlappingCalls index) ∧
      ¬ ((sample.rounds overlappingCalls).map (sample.discover overlappingCalls)).IsChain
        SymbolIndex.Within := by
  have hnamed : ∀ index ∈ sample.rounds namedMembers ++ [sample.buildIndex namedMembers],
      ∀ entry ∈ ((sample.registry index).run sample namedMembers).skipped,
        ¬ "name ".toList <+: entry.reason.toList := by decide +kernel
  have hcalls : ∀ index ∈ sample.rounds overlappingCalls ++ [sample.buildIndex overlappingCalls],
      ∀ entry ∈ ((sample.registry index).run sample overlappingCalls).skipped,
        ¬ "name ".toList <+: entry.reason.toList := by decide +kernel
  refine ⟨⟨by decide +kernel, by decide +kernel, by decide +kernel, ?_, by decide +kernel⟩,
    by decide +kernel, by decide +kernel, by decide +kernel, ?_, by decide +kernel⟩
  · exact fun index hindex => not_reportsCollision (hnamed index hindex)
  · exact fun index hindex => not_reportsCollision (hcalls index hindex)

end BindingOptions

end Interop
