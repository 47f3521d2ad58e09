import Interop.CommandLine.Load

/-!
# The command line over the configuration file

A configuration file gives the settings of a run, and the command line that names the file gives
others in their place. The command line prevails if the run has every setting that the command
line gives a value, and has all other settings from the file.

Loading first turns the command line into settings of their own, where an option that is not
given has its default, and then puts over the file whatever is not a default. An option that is
given its default is so taken for one that is not given. Three options have a value by which this
happens, and the command line prevails if and only if the file agrees with each of them that is
given that value.
-/

namespace Interop

/-- What an option with a text makes of a setting: the old value stays if the option is not given,
and a text that is not empty gives the new one. Of the empty text nothing is said. -/
def OptionPrevails (given : Option String) (meaning : String → α) (old new : α) : Prop :=
  match given with
  | none => new = old
  | some text => text ≠ "" → new = meaning text

/-- What an option with many texts makes of a setting. -/
def ListPrevails (given old new : List String) : Prop :=
  new = if given = [] then old else given

/-- What a switch makes of a setting: it turns it on or off as it `means`, or leaves it alone. -/
def SwitchPrevails (given means : Bool) (old new : Option Bool) : Prop :=
  new = if given then some means else old

namespace CommandLine

variable (line : CommandLine) (stored loaded : Config)

/-- The loaded settings are those of the command line where it gives them, and else the stored
ones; of the settings, these are the ones for which no text stands for a default. -/
structure PrevailsWithoutDefault : Prop where
  inputs : ListPrevails line.files stored.inputs loaded.inputs
  nameSpace : OptionPrevails line.nameSpace id stored.nameSpace loaded.nameSpace
  output : OptionPrevails line.output id stored.output loaded.output
  library : OptionPrevails line.library id stored.library loaded.library
  includeDirs : ListPrevails line.includeDirs stored.includeDirs loaded.includeDirs
  defines : ListPrevails line.defines stored.defines loaded.defines
  additionalArgs : ListPrevails line.additionalArgs stored.additionalArgs loaded.additionalArgs
  dropped : OptionPrevails line.dropped some stored.dropped loaded.dropped
  marshalStrings : SwitchPrevails line.noStringMarshalling false stored.marshalStrings
    loaded.marshalStrings
  verbose : SwitchPrevails line.verbose true stored.verbose loaded.verbose
  debug : SwitchPrevails line.debug true stored.debug loaded.debug

/-- All loaded settings are those of the command line where it gives them, and else the stored
ones. -/
structure Prevails : Prop extends line.PrevailsWithoutDefault stored loaded where
  container : OptionPrevails line.container id stored.container loaded.container
  excluded : OptionPrevails line.excluded Text.splitNames stored.excluded loaded.excluded
  language : OptionPrevails line.language id stored.language loaded.language

/-- Wherever the command line spells out a default, the stored setting is the default too. -/
structure AgreesOnDefaults : Prop where
  container : line.container = some Config.default.container →
    stored.container = Config.default.container
  language : line.language = some Config.default.language →
    stored.language = Config.default.language
  excluded : ∀ text, line.excluded = some text → text ≠ "" → Text.splitNames text = [] →
    stored.excluded = []

end CommandLine

/-! ## One setting -/

section

variable {α : Type} [DecidableEq α] {unset old : α} {meaning : String → α}

/-- An option prevails unless it means the default and the old value is another one. -/
theorem optionPrevails_pick_iff (given : Option String) :
    OptionPrevails given meaning old (Config.pick unset old ((given.map meaning).getD unset)) ↔
      ∀ text, given = some text → text ≠ "" → meaning text = unset → old = unset := by
  cases given with
  | none => simp [OptionPrevails]
  | some text =>
      by_cases hmeaning : meaning text = unset
      · simp [OptionPrevails, hmeaning]
      · simp [OptionPrevails, hmeaning, Config.pick_of_ne hmeaning]

/-- An option whose text is the setting prevails unless it is given the default. -/
theorem optionPrevails_text_iff {unset old : String} (given : Option String) (h : unset ≠ "") :
    OptionPrevails given id old (Config.pick unset old (given.getD unset)) ↔
      (given = some unset → old = unset) := by
  have hpick := @optionPrevails_pick_iff _ _ unset old id given
  rw [Option.map_id, id] at hpick
  rw [hpick]
  constructor
  · intro hall hgiven
    exact hall unset hgiven h rfl
  · intro hsame text hgiven _ htext
    exact hsame (htext ▸ hgiven)

theorem optionPrevails_text {old : String} (given : Option String) :
    OptionPrevails given id old (Config.pick "" old (given.getD "")) := by
  cases given with
  | none => simp [OptionPrevails]
  | some text =>
      intro htext
      exact Config.pick_of_ne htext

theorem optionPrevails_some {old : Option String} (given : Option String) :
    OptionPrevails given some old (Config.pick none old given) := by
  cases given with
  | none => simp [OptionPrevails]
  | some text =>
      intro _
      exact Config.pick_of_ne (Option.some_ne_none text)

end

theorem listPrevails_pick (given old : List String) :
    ListPrevails given old (Config.pick [] old given) :=
  rfl

theorem switchPrevails_pick (given means : Bool) (old : Option Bool) :
    SwitchPrevails given means old
      (Config.pick none old (if given then some means else none)) := by
  cases given <;> rfl

/-! ## All settings -/

namespace CommandLine

variable {line : CommandLine} {stored : Config}

theorem prevailsWithoutDefault_merge (line : CommandLine) (stored : Config) :
    line.PrevailsWithoutDefault stored (stored.merge line.config) where
  inputs := listPrevails_pick _ _
  nameSpace := optionPrevails_text _
  output := optionPrevails_text _
  library := optionPrevails_text _
  includeDirs := listPrevails_pick _ _
  defines := listPrevails_pick _ _
  additionalArgs := listPrevails_pick _ _
  dropped := optionPrevails_some _
  marshalStrings := switchPrevails_pick _ _ _
  verbose := switchPrevails_pick _ _ _
  debug := switchPrevails_pick _ _ _

/-- Merged over stored settings, the command line prevails if and only if the stored settings
agree with the defaults that it spells out. -/
theorem prevails_merge_iff :
    line.Prevails stored (stored.merge line.config) ↔ line.AgreesOnDefaults stored := by
  have hcontainer :
      OptionPrevails line.container id stored.container (stored.merge line.config).container ↔
        (line.container = some Config.default.container →
          stored.container = Config.default.container) :=
    optionPrevails_text_iff line.container (by decide)
  have hlanguage :
      OptionPrevails line.language id stored.language (stored.merge line.config).language ↔
        (line.language = some Config.default.language →
          stored.language = Config.default.language) :=
    optionPrevails_text_iff line.language (by decide)
  have hexcluded :
      OptionPrevails line.excluded Text.splitNames stored.excluded
          (stored.merge line.config).excluded ↔
        ∀ text, line.excluded = some text → text ≠ "" → Text.splitNames text = [] →
          stored.excluded = [] :=
    optionPrevails_pick_iff line.excluded
  constructor
  · intro h
    exact ⟨hcontainer.mp h.container, hlanguage.mp h.language, hexcluded.mp h.excluded⟩
  · intro h
    exact {
      toPrevailsWithoutDefault := prevailsWithoutDefault_merge line stored
      container := hcontainer.mpr h.container
      excluded := hexcluded.mpr h.excluded
      language := hlanguage.mpr h.language }

theorem load_of_configFile {read : String → Option String} {path content : String}
    (hfile : line.configFile = some path) (hread : read path = some content)
    (hstored : Config.ofText? content = some stored) :
    line.load read = .ok (stored.merge line.config) := by
  simp only [load, hfile, hread, hstored]

/-- With a configuration file, settings are loaded in which the command line prevails wherever no
text stands for a default, and everywhere if and only if the file agrees with the defaults that
the command line spells out. -/
theorem load_prevails_iff {read : String → Option String} {path content : String}
    (hfile : line.configFile = some path) (hread : read path = some content)
    (hstored : Config.ofText? content = some stored) :
    ∃ loaded, line.load read = .ok loaded ∧ line.PrevailsWithoutDefault stored loaded ∧
      (line.Prevails stored loaded ↔ line.AgreesOnDefaults stored) :=
  ⟨_, load_of_configFile hfile hread hstored, prevailsWithoutDefault_merge line stored,
    prevails_merge_iff⟩

/-! A configuration file, a command line that prevails over it, and one that spells out all three
defaults and does not. -/

/-- The settings in the file. -/
def filedConfig : Config :=
  { container := "Api", excluded := ["dump"], language := "c" }

/-- The text of the file. -/
def filedText : String :=
  "\x7b\"container\": \"Api\", \"exclude\": [\"dump\"], \"language\": \"c\"\x7d"

theorem ofText?_filedText : Config.ofText? filedText = some filedConfig := by
  decide +kernel

/-- A command line with a namespace and another class. -/
def settingNames : CommandLine :=
  { nameSpace := some "Vendor", container := some "Calls", configFile := some "f.json" }

theorem prevails_settingNames :
    ∃ loaded, settingNames.load (fun _ => some filedText) = .ok loaded ∧
      settingNames.Prevails filedConfig loaded := by
  obtain ⟨loaded, hload, -, hprevails⟩ :=
    @load_prevails_iff settingNames filedConfig (fun _ => some filedText) _ _ rfl rfl
      ofText?_filedText
  refine ⟨loaded, hload, hprevails.mpr ?_⟩
  exact ⟨by decide, by decide, by simp [settingNames]⟩

/-- A command line that spells out the three defaults. -/
def spellingDefaults : CommandLine :=
  { container := some "Methods", excluded := some ",", language := some "c++",
    configFile := some "f.json" }

/-- The class, the excluded functions and the language of the file stay, whatever the command
line says. -/
theorem not_prevails_spellingDefaults :
    spellingDefaults.load (fun _ => some filedText) = .ok filedConfig ∧
      ¬ OptionPrevails spellingDefaults.container id filedConfig.container
        filedConfig.container ∧
      ¬ OptionPrevails spellingDefaults.excluded Text.splitNames filedConfig.excluded
        filedConfig.excluded ∧
      ¬ OptionPrevails spellingDefaults.language id filedConfig.language
        filedConfig.language := by
  refine ⟨?_, ?_, ?_, ?_⟩
  · have hload := @load_of_configFile spellingDefaults _ (fun _ => some filedText) _ _ rfl rfl
      ofText?_filedText
    have hmerge : filedConfig.merge spellingDefaults.config = filedConfig := by decide +kernel
    rw [hload, hmerge]
  · simp [OptionPrevails, spellingDefaults, filedConfig]
  · have hnames : Text.splitNames "," = [] := by decide +kernel
    simp [OptionPrevails, spellingDefaults, filedConfig, hnames]
  · simp [OptionPrevails, spellingDefaults, filedConfig]

end CommandLine

end Interop
