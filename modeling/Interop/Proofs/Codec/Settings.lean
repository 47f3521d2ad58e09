import Interop.Codec.Settings
import Interop.CommandLine.Arguments
import Interop.Proofs.Json.Members
import Interop.Proofs.Text.NameLists

/-!
# Settings are read back

Settings that are written to a configuration file are read back as they were, but for the excluded
functions: each text that is written there is read as a comma-separated list of names. So settings
are read back exactly if and only if the excluded functions are names that such a list can have.
All settings that come from a configuration file or from a command line are of this kind, because
both have been read in this way before (`Config.settings_read_back`).
-/

namespace Interop.Config

open Json

variable {config : Config} {value part : Value} {names : List String}

/-! ## What is written -/

@[simp] theorem texts?_ofList (texts : List String) : texts? (.ofList .text texts) = some texts :=
  Value.elements_map fun text _ => Value.text?_text text

@[simp] theorem names?_ofList (texts : List String) :
    names? (.ofList .text texts) = some (texts.flatMap Text.splitNames) := by
  show (texts? (.ofList .text texts)).map _ = _
  rw [texts?_ofList]
  rfl

/-- The keys of settings differ. -/
theorem nodup_keys : keys.Nodup := by decide

/-- Settings are read back, their excluded functions as lists of names. -/
theorem ofJson?_toJson (config : Config) : ofJson? config.toJson =
    some { config with excluded := config.excluded.flatMap Text.splitNames } := by
  have keeps : Value.Keeps (keys.zip config.values) (keys.zip config.values) fun _ => False :=
    .refl _ _
  have distinct : ((keys.zip config.values).map (·.1)).Nodup := nodup_keys
  rw [toJson, ofJson?, ofMembers?]
  rw [keeps.optional_eq distinct rfl (texts?_ofList config.inputs) False.elim]
  rw [keeps.optional_eq distinct rfl (Value.text?_text config.nameSpace) False.elim]
  rw [keeps.optional_eq distinct rfl (Value.text?_text config.output) False.elim]
  rw [keeps.optional_eq distinct rfl (Value.text?_text config.library) False.elim]
  rw [keeps.optional_eq distinct rfl (texts?_ofList config.includeDirs) False.elim]
  rw [keeps.optional_eq distinct rfl (texts?_ofList config.defines) False.elim]
  rw [keeps.optional_eq distinct rfl (texts?_ofList config.additionalArgs) False.elim]
  rw [keeps.nullable_eq distinct rfl (Value.rel_self config.dropped (by simp) Value.text?_text)
    False.elim]
  rw [keeps.optional_eq distinct rfl (Value.text?_text config.container) False.elim]
  rw [keeps.optional_eq distinct rfl (names?_ofList config.excluded) False.elim]
  rw [keeps.optional_eq distinct rfl (Value.text?_text config.language) False.elim]
  rw [keeps.nullable_eq distinct rfl
    (Value.rel_self config.marshalStrings (by simp) Value.bool?_bool) False.elim]
  rw [keeps.nullable_eq distinct rfl (Value.rel_self config.verbose (by simp) Value.bool?_bool)
    False.elim]
  rw [keeps.nullable_eq distinct rfl (Value.rel_self config.debug (by simp) Value.bool?_bool)
    False.elim]
  rfl

/-- Settings are read back exactly if and only if the excluded functions are names. -/
theorem ofJson?_toJson_eq_self_iff :
    ofJson? config.toJson = some config ↔ ∀ name ∈ config.excluded, Text.IsListed name := by
  rw [ofJson?_toJson, Option.some.injEq, ← Text.flatMap_splitNames_eq_self_iff]
  constructor
  · exact congrArg excluded
  · intro h
    rw [h]

/-! ## What is read -/

theorem isListed_of_mem_names? (h : names? value = some names) :
    ∀ name ∈ names, Text.IsListed name := by
  intro name hname
  unfold names? at h
  split at h
  next text =>
    cases h
    exact Text.isListed_of_mem_splitNames hname
  next =>
    obtain ⟨texts, -, rfl⟩ := Option.map_eq_some_iff.mp h
    obtain ⟨text, -, hin⟩ := List.mem_flatMap.mp hname
    exact Text.isListed_of_mem_splitNames hin

theorem optional_excluded_of_ofMembers? (h : ofMembers? value = some config) :
    value.optional "exclude" default.excluded (fun part _ => names? part) =
      some config.excluded := by
  unfold ofMembers? at h
  iterate 9 obtain ⟨_, _, h⟩ := Option.bind_eq_some_iff.mp h
  obtain ⟨excluded, hexcluded, h⟩ := Option.bind_eq_some_iff.mp h
  iterate 4 obtain ⟨_, _, h⟩ := Option.bind_eq_some_iff.mp h
  cases h
  exact hexcluded

theorem isListed_of_ofMembers? (h : ofMembers? value = some config) :
    ∀ name ∈ config.excluded, Text.IsListed name := by
  rcases Value.read_of_optional (optional_excluded_of_ofMembers? h) with hdefault | ⟨part, hpart⟩
  · rw [hdefault]
    exact List.forall_mem_nil _
  · exact isListed_of_mem_names? hpart

/-- The excluded functions of settings that are read are names. -/
theorem isListed_of_ofJson? (h : ofJson? value = some config) :
    ∀ name ∈ config.excluded, Text.IsListed name := by
  cases value with
  | object members => exact isListed_of_ofMembers? h
  | array elements =>
      rw [ofJson?, Option.ite_none_right_eq_some] at h
      exact isListed_of_ofMembers? h.2
  | _ => cases h

/-- The excluded functions that a command line gives are names. -/
theorem isListed_of_commandLine (line : CommandLine) :
    ∀ name ∈ line.config.excluded, Text.IsListed name := by
  intro name hname
  cases hexcluded : line.excluded with
  | none => simp [CommandLine.config, hexcluded, default] at hname
  | some list =>
      simp only [CommandLine.config, hexcluded, Option.map_some, Option.getD_some] at hname
      exact Text.isListed_of_mem_splitNames hname

/-! ## What is written and read -/

/-- Settings are read back but for their excluded functions, which are split into names. So they
are read back exactly if and only if these are names, and all settings that are read from a file
or given by a command line are read back exactly. -/
theorem settings_read_back :
    (∀ config : Config, ofJson? config.toJson =
        some { config with excluded := config.excluded.flatMap Text.splitNames } ∧
      (ofJson? config.toJson = some config ↔ ∀ name ∈ config.excluded, Text.IsListed name)) ∧
    (∀ value config, ofJson? value = some config → ofJson? config.toJson = some config) ∧
    ∀ line : CommandLine, ofJson? line.config.toJson = some line.config := by
  refine ⟨?_, ?_, ?_⟩
  · intro config
    exact ⟨ofJson?_toJson config, ofJson?_toJson_eq_self_iff⟩
  · intro value config h
    exact ofJson?_toJson_eq_self_iff.mpr (isListed_of_ofJson? h)
  · intro line
    exact ofJson?_toJson_eq_self_iff.mpr (isListed_of_commandLine line)

/-- A file whose excluded functions are one text, with a blank and an empty name in it. -/
def joinedNames : Value := .object [("exclude", .text " init, ,free\t")]

theorem settings_read_back_joinedNames :
    ∃ config, ofJson? joinedNames = some config ∧ config.excluded = ["init", "free"] ∧
      ofJson? config.toJson = some config := by
  have hread : ofJson? joinedNames = some { excluded := ["init", "free"] } := by decide +kernel
  exact ⟨_, hread, rfl, settings_read_back.2.1 _ _ hread⟩

end Interop.Config
