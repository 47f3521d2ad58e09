import Interop.Config.Validation
import Interop.Proofs.Source.Names
import Interop.Proofs.Text.NameLists

/-!
# Checking settings

Which settings a run accepts, and what is said of all others. The conditions are stated for one
setting after the other (`Config.IsUsable`), with what may stand where a name or a macro is
wanted. Settings that are not usable come with a report: it has every problem that holds of them
and no other one, the problems of each setting before those of the next, and for each macro that
is no definition a problem of its own. There is only one such report
(`Config.IsReport.eq_problems`), and checking gives it (`Config.validate_reports`).
-/

namespace Interop

/-! ## Names and macros -/

namespace Identifier

variable {text : String}

/-- A text with which something can be named: an identifier, or an `@` and an identifier, but not
a bare keyword. -/
structure IsName (text : String) : Prop where
  identifier : ∃ name, isValid name = true ∧ (text = name ∨ text = "@" ++ name)
  notKeyword : isKeyword text = false

theorem isName_iff : IsName text ↔ isWritten text = true := by
  rw [isWritten_iff]
  constructor
  · rintro ⟨⟨name, hvalid, rfl | rfl⟩, hkeyword⟩
    · exact .inl ⟨hvalid, hkeyword⟩
    · exact .inr ⟨name, hvalid, rfl⟩
  · rintro (⟨hvalid, hkeyword⟩ | ⟨name, hvalid, rfl⟩)
    · exact ⟨⟨text, hvalid, .inl rfl⟩, hkeyword⟩
    · exact ⟨⟨name, hvalid, .inr rfl⟩, isKeyword_at name⟩

/-- A text of names with dots between them. -/
def IsQualifiedName (text : String) : Prop := ∀ segment ∈ Text.split '.' text, IsName segment

theorem isQualifiedName_iff : IsQualifiedName text ↔ Config.isNameSpace text = true := by
  rw [Config.isNameSpace, List.all_eq_true]
  exact forall₂_congr fun _ _ => isName_iff

end Identifier

/-- A text that defines a macro: an identifier, alone or with an equals sign and the rest of a line
after it. -/
def DefinesMacro (text : String) : Prop :=
  ∃ name, Identifier.isValid name = true ∧
    (text = name ∨ ∃ value : String, '\n' ∉ value.toList ∧ text = name ++ "=" ++ value)

theorem Identifier.ne_equals_of_isValid {name : String} (h : isValid name = true) :
    ∀ c ∈ name.toList, decide (c ≠ '=') = true := by
  intro c hc
  rw [decide_eq_true_iff]
  rintro rfl
  exact absurd (isPart_of_isValid h _ hc) (by decide)

theorem definesMacro_iff {text : String} : DefinesMacro text ↔ Config.isDefine text = true := by
  simp only [Config.isDefine, Bool.and_eq_true, Bool.not_eq_true', List.contains_eq_mem,
    decide_eq_false_iff_not]
  constructor
  · rintro ⟨name, hvalid, rfl | ⟨value, hvalue, rfl⟩⟩
    · have hname := Identifier.ne_equals_of_isValid hvalid
      rw [List.takeWhile_eq_self_iff.mpr hname, List.dropWhile_eq_nil_iff.mpr hname]
      exact ⟨hvalid, List.not_mem_nil⟩
    · have hname := Identifier.ne_equals_of_isValid hvalid
      rw [String.append_assoc, String.toList_append, List.takeWhile_append_of_pos hname,
        List.dropWhile_append_of_pos hname]
      simpa [Identifier.isValid] using And.intro hvalid hvalue
  · rintro ⟨hvalid, hvalue⟩
    refine ⟨String.ofList (text.toList.takeWhile (· ≠ '=')), ?_, ?_⟩
    · rwa [Identifier.isValid, String.toList_ofList]
    · have htext := @List.takeWhile_append_dropWhile _ (· ≠ '=') text.toList
      cases hrest : text.toList.dropWhile (· ≠ '=') with
      | nil =>
          left
          rw [hrest, List.append_nil] at htext
          rw [htext, String.ofList_toList]
      | cons c value =>
          right
          have hc : c = '=' := by
            have hhead := List.head?_dropWhile_not (· ≠ '=') text.toList
            rw [hrest] at hhead
            simpa using hhead
          subst hc
          rw [hrest] at hvalue htext
          refine ⟨String.ofList value, ?_, ?_⟩
          · rw [String.toList_ofList]
            exact List.not_mem_of_not_mem_cons hvalue
          · rw [← String.toList_inj]
            simpa using htext.symm

instance {text : String} : Decidable (DefinesMacro text) :=
  decidable_of_iff _ definesMacro_iff.symm

/-! ## Usable settings -/

/-- Settings with which a run can start. -/
structure Config.IsUsable (config : Config) : Prop where
  inputs : config.inputs ≠ []
  output : Text.trim config.output ≠ ""
  library : Text.trim config.library ≠ ""
  nameSpace : Text.trim config.nameSpace ≠ "" ∧ Identifier.IsQualifiedName config.nameSpace
  container : Identifier.IsName config.container
  defines : ∀ text ∈ config.defines, DefinesMacro text
  language : config.language = "c" ∨ config.language = "c++"

/-! ## Reports -/

namespace ConfigProblem

/-- What a problem says of the settings. -/
def Holds (config : Config) : ConfigProblem → Prop
  | .noInput => config.inputs = []
  | .noOutput => Text.trim config.output = ""
  | .noLibrary => Text.trim config.library = ""
  | .noNameSpace => Text.trim config.nameSpace = ""
  | .invalidNameSpace text => text = config.nameSpace ∧ Text.trim text ≠ "" ∧
    ¬ Identifier.IsQualifiedName text
  | .invalidContainer text => text = config.container ∧ ¬ Identifier.IsName text
  | .invalidDefine text => text ∈ config.defines ∧ ¬ DefinesMacro text
  | .invalidLanguage text => text = config.language ∧ text ≠ "c" ∧ text ≠ "c++"

/-- The place of the setting that a problem is about in the order of the checks: inputs, output,
library, namespace, class, macros, language. -/
def place : ConfigProblem → Nat
  | .noInput => 0
  | .noOutput => 1
  | .noLibrary => 2
  | .noNameSpace | .invalidNameSpace _ => 3
  | .invalidContainer _ => 4
  | .invalidDefine _ => 5
  | .invalidLanguage _ => 6

/-- The text that is no macro definition. -/
def define? : ConfigProblem → Option String
  | .invalidDefine text => some text
  | _ => none

/-- One problem comes before another one: it is about an earlier setting, or both are about
macros. -/
def Precedes (first second : ConfigProblem) : Prop :=
  first.place < second.place ∨ first.define?.isSome ∧ second.define?.isSome

end ConfigProblem

namespace Config

open ConfigProblem

variable {config : Config} {problem : ConfigProblem} {problems left right : List ConfigProblem}

/-- All problems of the settings in order: one for each setting that is not as it should be, and
for macros one for each text that defines none. -/
structure IsReport (config : Config) (problems : List ConfigProblem) : Prop where
  mem_iff : ∀ problem, problem ∈ problems ↔ problem.Holds config
  ordered : problems.Pairwise Precedes
  defines : problems.filterMap define? = config.defines.filter fun text => ¬ DefinesMacro text

theorem mem_nameSpaceProblems_iff : problem ∈ config.nameSpaceProblems ↔
    problem = .noNameSpace ∧ Text.isBlankText config.nameSpace = true ∨
      problem = .invalidNameSpace config.nameSpace ∧ Text.isBlankText config.nameSpace = false ∧
        isNameSpace config.nameSpace = false := by
  unfold nameSpaceProblems
  split
  next hblank => simp [hblank]
  next hblank =>
    split
    next hname => simp [hblank, hname]
    next hname => simp [hblank, hname]

/-- The problems that are found are those of the settings. -/
theorem mem_problems_iff : problem ∈ config.problems ↔ problem.Holds config := by
  simp only [Config.problems, List.mem_append, mem_nameSpaceProblems_iff, List.mem_ite_nil_left,
    List.mem_ite_nil_right, List.mem_singleton, List.mem_map, List.mem_filter]
  cases problem with
  | noInput => simp [Holds]
  | noOutput => simp [Holds, Text.trim_eq_empty_iff]
  | noLibrary => simp [Holds, Text.trim_eq_empty_iff]
  | noNameSpace => simp [Holds, Text.trim_eq_empty_iff]
  | invalidNameSpace text =>
      simp only [Holds, ne_eq, Text.trim_eq_empty_iff, Identifier.isQualifiedName_iff]
      grind
  | invalidContainer text =>
      simp only [Holds, Identifier.isName_iff]
      grind
  | invalidDefine text => simp [Holds, definesMacro_iff]
  | invalidLanguage text =>
      simp only [Holds, languages, List.contains_cons]
      grind

/-! ## The order of the problems -/

/-- Problems in order, about settings from one place on and before another one. -/
structure IsOrdered (first past : Nat) (problems : List ConfigProblem) : Prop where
  le : first ≤ past
  pairwise : problems.Pairwise Precedes
  places : ∀ problem ∈ problems, first ≤ problem.place ∧ problem.place < past

theorem IsOrdered.append {first middle past : Nat} (hleft : IsOrdered first middle left)
    (hright : IsOrdered middle past right) : IsOrdered first past (left ++ right) where
  le := hleft.le.trans hright.le
  pairwise := by
    refine List.pairwise_append.mpr ⟨hleft.pairwise, hright.pairwise, ?_⟩
    intro a ha b hb
    have hlow := (hleft.places a ha).2
    have hhigh := (hright.places b hb).1
    exact .inl (by omega)
  places := by
    refine List.forall_mem_append.mpr ⟨fun a ha => ?_, fun b hb => ?_⟩
    · have hlow := hleft.places a ha
      exact ⟨hlow.1, hlow.2.trans_le hright.le⟩
    · have hhigh := hright.places b hb
      exact ⟨hleft.le.trans hhigh.1, hhigh.2⟩

/-- At most one problem about a setting. -/
theorem isOrdered_of_length_le_one {place : Nat} (hlength : problems.length ≤ 1)
    (hplace : ∀ problem ∈ problems, problem.place = place) :
    IsOrdered place (place + 1) problems where
  le := Nat.le_succ place
  pairwise := by
    match problems, hlength with
    | [], _ => exact List.Pairwise.nil
    | [_], _ => exact List.pairwise_singleton _ _
  places := by
    intro problem hproblem
    have := hplace problem hproblem
    omega

theorem isOrdered_ite {c : Prop} [Decidable c] (problem : ConfigProblem) :
    IsOrdered problem.place (problem.place + 1) (if c then [problem] else []) := by
  apply isOrdered_of_length_le_one
  · split <;> simp
  · simp

theorem isOrdered_ite_not {c : Prop} [Decidable c] (problem : ConfigProblem) :
    IsOrdered problem.place (problem.place + 1) (if c then [] else [problem]) := by
  rw [← ite_not]
  exact isOrdered_ite problem

theorem isOrdered_nameSpaceProblems (config : Config) :
    IsOrdered 3 4 config.nameSpaceProblems := by
  apply isOrdered_of_length_le_one
  · unfold nameSpaceProblems
    split_ifs <;> simp
  · intro problem hproblem
    rcases mem_nameSpaceProblems_iff.mp hproblem with ⟨rfl, -⟩ | ⟨rfl, -⟩ <;> rfl

theorem isOrdered_map_invalidDefine (texts : List String) :
    IsOrdered 5 6 (texts.map .invalidDefine) where
  le := Nat.le_succ 5
  pairwise := by
    rw [List.pairwise_map]
    exact List.pairwise_of_forall fun _ _ => .inr ⟨rfl, rfl⟩
  places := by simp [place]

/-- The problems about macros stand between those about the settings before and after them. -/
theorem exists_problems_eq (config : Config) : ∃ before after,
    config.problems =
        before ++ (config.defines.filter (!isDefine ·)).map .invalidDefine ++ after ∧
      IsOrdered 0 5 before ∧ IsOrdered 6 7 after := by
  have hinputs := @isOrdered_ite (config.inputs = []) _ .noInput
  have houtput := @isOrdered_ite (Text.isBlankText config.output) _ .noOutput
  have hlibrary := @isOrdered_ite (Text.isBlankText config.library) _ .noLibrary
  have hnameSpace := isOrdered_nameSpaceProblems config
  have hcontainer := @isOrdered_ite_not (Identifier.isWritten config.container) _
    (.invalidContainer config.container)
  have hlanguage := @isOrdered_ite_not (languages.contains config.language) _
    (.invalidLanguage config.language)
  refine ⟨_, _, rfl, ?_, hlanguage⟩
  exact (((hinputs.append houtput).append hlibrary).append hnameSpace).append hcontainer

theorem isOrdered_problems (config : Config) : IsOrdered 0 7 config.problems := by
  obtain ⟨before, after, hproblems, hbefore, hafter⟩ := config.exists_problems_eq
  rw [hproblems]
  exact (hbefore.append (isOrdered_map_invalidDefine _)).append hafter

/-! ## The report -/

theorem define?_isSome_iff : problem.define?.isSome ↔ problem.place = 5 := by
  cases problem <;> simp [define?, place]

theorem IsOrdered.filterMap_define? {first past : Nat} (h : IsOrdered first past problems)
    (hplaces : past ≤ 5 ∨ 5 < first) : problems.filterMap define? = [] := by
  rw [List.filterMap_eq_nil_iff]
  intro problem hproblem
  have hplace := h.places problem hproblem
  rw [← Option.not_isSome_iff_eq_none, define?_isSome_iff]
  omega

theorem filterMap_define?_problems (config : Config) :
    config.problems.filterMap define? = config.defines.filter fun text => ¬ DefinesMacro text := by
  obtain ⟨before, after, hproblems, hbefore, hafter⟩ := config.exists_problems_eq
  rw [hproblems, List.filterMap_append, List.filterMap_append, List.filterMap_map,
    hbefore.filterMap_define? (.inl le_rfl), hafter.filterMap_define? (.inr (by decide)),
    List.nil_append, List.append_nil]
  refine List.filterMap_some.trans (List.filter_congr fun text _ => ?_)
  simp [definesMacro_iff]

/-- The problems that are found are a report. -/
theorem isReport_problems (config : Config) : config.IsReport config.problems where
  mem_iff _ := mem_problems_iff
  ordered := (isOrdered_problems config).pairwise
  defines := filterMap_define?_problems config

/-! Two reports have the same problems about each setting. -/

theorem eq_of_filter_eq {α : Type} {key : α → Nat} {first second : List α}
    (hfirst : first.Pairwise fun a b => key a ≤ key b)
    (hsecond : second.Pairwise fun a b => key a ≤ key b)
    (h : ∀ n, first.filter (key · = n) = second.filter (key · = n)) : first = second := by
  induction first generalizing second with
  | nil =>
      cases second with
      | nil => rfl
      | cons b second => simpa using h (key b)
  | cons a first ih =>
      cases second with
      | nil => simpa using h (key a)
      | cons b second =>
          have hmem : ∀ c, c ∈ a :: first ↔ c ∈ b :: second := by
            intro c
            have hc := congrArg (c ∈ ·) (h (key c))
            simpa [-List.mem_cons, List.mem_filter] using hc
          have hab : key a ≤ key b := by
            rcases List.mem_cons.mp ((hmem b).mpr List.mem_cons_self) with rfl | hb
            · exact le_rfl
            · exact List.rel_of_pairwise_cons hfirst hb
          have hba : key b ≤ key a := by
            rcases List.mem_cons.mp ((hmem a).mp List.mem_cons_self) with rfl | ha
            · exact le_rfl
            · exact List.rel_of_pairwise_cons hsecond ha
          have hhead : a :: first.filter (key · = key a) = b :: second.filter (key · = key a) := by
            simpa [hba.antisymm hab] using h (key a)
          obtain ⟨rfl, -⟩ := List.cons.inj hhead
          rw [ih hfirst.of_cons hsecond.of_cons]
          intro n
          have hn := h n
          rw [List.filter_cons, List.filter_cons] at hn
          split at hn
          · exact List.tail_eq_of_cons_eq hn
          · exact hn

theorem filter_place_defines :
    problems.filter (·.place = 5) = (problems.filterMap define?).map .invalidDefine := by
  induction problems with
  | nil => rfl
  | cons problem problems ih =>
      rw [List.filter_cons, List.filterMap_cons, ih]
      cases problem <;> rfl

theorem place_le_of_precedes {first second : ConfigProblem} (h : first.Precedes second) :
    first.place ≤ second.place := by
  rcases h with hlt | ⟨hfirst, hsecond⟩
  · exact hlt.le
  · rw [define?_isSome_iff.mp hfirst, define?_isSome_iff.mp hsecond]

/-- No problem comes before another one about the same setting, but for macros. -/
theorem pairwise_filter_place (h : problems.Pairwise Precedes) {place : Nat} (hplace : place ≠ 5) :
    (problems.filter (·.place = place)).Pairwise fun _ _ => False := by
  refine (h.filter _).imp_of_mem ?_
  intro first second hfirst hsecond hprecedes
  have hfirst := of_decide_eq_true (List.mem_filter.mp hfirst).2
  have hsecond := of_decide_eq_true (List.mem_filter.mp hsecond).2
  rcases hprecedes with hlt | ⟨hdefine, -⟩
  · omega
  · rw [define?_isSome_iff, hfirst] at hdefine
    exact hplace hdefine

theorem IsReport.filter_place_eq (hleft : config.IsReport left) (hright : config.IsReport right)
    (place : Nat) : left.filter (·.place = place) = right.filter (·.place = place) := by
  by_cases hplace : place = 5
  · subst hplace
    rw [filter_place_defines, filter_place_defines, hleft.defines, hright.defines]
  · have hone := pairwise_filter_place hleft.ordered hplace
    have hother := pairwise_filter_place hright.ordered hplace
    have hsame : (left.filter (·.place = place)).Perm (right.filter (·.place = place)) := by
      rw [List.perm_ext_iff_of_nodup (hone.imp False.elim) (hother.imp False.elim)]
      intro problem
      rw [List.mem_filter, List.mem_filter, hleft.mem_iff, hright.mem_iff]
    exact hsame.eq_of_pairwise (fun _ _ _ _ h => h.elim) hone hother

/-- There is only one report. -/
theorem IsReport.eq_problems (h : config.IsReport problems) : problems = config.problems := by
  have hreport := isReport_problems config
  refine eq_of_filter_eq ?_ ?_ (h.filter_place_eq hreport)
  · exact h.ordered.imp place_le_of_precedes
  · exact hreport.ordered.imp place_le_of_precedes

/-! ## What is accepted -/

theorem problems_eq_nil_iff : config.problems = [] ↔ config.IsUsable := by
  constructor
  · intro h
    have hnone : ∀ problem : ConfigProblem, ¬ problem.Holds config := by
      intro problem
      rw [← mem_problems_iff, h]
      exact List.not_mem_nil
    exact {
      inputs := hnone .noInput
      output := hnone .noOutput
      library := hnone .noLibrary
      nameSpace := ⟨hnone .noNameSpace, by_contra fun hname =>
        hnone (.invalidNameSpace _) ⟨rfl, hnone .noNameSpace, hname⟩⟩
      container := by_contra fun hname => hnone (.invalidContainer _) ⟨rfl, hname⟩
      defines text htext := by_contra fun hdefines => hnone (.invalidDefine _) ⟨htext, hdefines⟩
      language := by
        by_contra hlanguage
        exact hnone (.invalidLanguage _) ⟨rfl, not_or.mp hlanguage⟩ }
  · intro h
    rw [List.eq_nil_iff_forall_not_mem]
    intro problem hproblem
    rw [mem_problems_iff] at hproblem
    cases problem with
    | noInput => exact h.inputs hproblem
    | noOutput => exact h.output hproblem
    | noLibrary => exact h.library hproblem
    | noNameSpace => exact h.nameSpace.1 hproblem
    | invalidNameSpace text =>
        obtain ⟨rfl, -, hname⟩ := hproblem
        exact hname h.nameSpace.2
    | invalidContainer text =>
        obtain ⟨rfl, hname⟩ := hproblem
        exact hname h.container
    | invalidDefine text => exact hproblem.2 (h.defines text hproblem.1)
    | invalidLanguage text =>
        obtain ⟨rfl, hc, hcpp⟩ := hproblem
        exact h.language.elim hc hcpp

/-- The namespace and the class of usable settings can be written in source. -/
theorem IsUsable.isWritten (h : config.IsUsable) :
    Identifier.isWritten config.container = true ∧
      ∃ names, names ≠ [] ∧ (∀ name ∈ names, Identifier.isWritten name = true) ∧
        ".".intercalate names = config.nameSpace := by
  refine ⟨Identifier.isName_iff.mp h.container, Text.split '.' config.nameSpace, ?_, ?_, ?_⟩
  · exact Text.split_ne_nil '.' config.nameSpace
  · intro name hname
    exact Identifier.isName_iff.mp (h.nameSpace.2 name hname)
  · exact Text.intercalate_split '.' config.nameSpace

/-- Checking accepts exactly the usable settings, whose namespace and class can be written in
source, and refuses all others with the messages of their report. -/
theorem validate_reports (config : Config) :
    (config.validate = .ok () ↔ config.IsUsable) ∧
    (¬ config.IsUsable → ∃ problems, problems ≠ [] ∧ config.IsReport problems ∧
      config.validate = .error (.invalid (problems.map (·.message)))) ∧
    (config.IsUsable → Identifier.isWritten config.container = true ∧
      ∃ names, names ≠ [] ∧ (∀ name ∈ names, Identifier.isWritten name = true) ∧
        ".".intercalate names = config.nameSpace) := by
  refine ⟨validate_eq_ok_iff.trans problems_eq_nil_iff, ?_, IsUsable.isWritten⟩
  intro h
  rw [← problems_eq_nil_iff] at h
  exact ⟨config.problems, h, isReport_problems config, validate_of_problems h⟩

/-- Settings with names that need an `@`, and macros with and without a value. -/
def escapedNames : Config :=
  { inputs := ["api.h"], nameSpace := "Vendor.@event", output := "Api.cs", library := "api",
    container := "@class", defines := ["DEBUG", "LEVEL=1 = 2", "EMPTY="], language := "c" }

/-- Settings with one or two problems for each setting. -/
def unusable : Config :=
  { output := " ", library := "\t", nameSpace := "Vendor..Api", container := "class",
    defines := ["1X", "OK", "", "A=\n"], language := "C" }

theorem validate_reports_unusable :
    escapedNames.IsUsable ∧ (∃ names, names ≠ [] ∧
      (∀ name ∈ names, Identifier.isWritten name = true) ∧
        ".".intercalate names = "Vendor.@event") ∧
    unusable.validate = .error (.invalid ["no input file given (--file)",
      "no output file given (--output)", "no library given (--libraryPath)",
      "invalid namespace: Vendor..Api", "invalid class name: class", "invalid define: 1X",
      "invalid define: ", "invalid define: A=\n", "invalid language: C. Use 'c' or 'c++'"]) ∧
    ∃ problems, unusable.IsReport problems ∧
      unusable.validate = .error (.invalid (problems.map (·.message))) := by
  have hvalid : escapedNames.validate = .ok () := by decide +kernel
  have husable := (validate_reports escapedNames).1.mp hvalid
  have hinvalid : ¬ unusable.IsUsable := by
    rw [← (validate_reports unusable).1]
    decide +kernel
  obtain ⟨problems, -, hreport, hmessages⟩ := (validate_reports unusable).2.1 hinvalid
  refine ⟨husable, ((validate_reports escapedNames).2.2 husable).2, by decide +kernel, problems,
    hreport, hmessages⟩

end Config

end Interop
