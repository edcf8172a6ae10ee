import DashboardExport.Proofs.Configuration.Loading

/-!
# Where settings come from

Four sources give settings: what the caller overrides, the variables of the environment, the
profile in use, and the configuration file.  Which profile is in use depends on the other
sources, because the file can name one (`Names`); when nobody names one, the options that hold
in all sections stand behind the file instead of before it (`Profiled`).

Host and token come from the first source that has them, where each source has its own notion
of a setting that is there: an override is not null, a variable and an option of a profile are
not empty, and the file has the key (`Chosen`).  Putting the sources over each other, one after
the other, comes to this choice (`chosen_iff`).
-/

set_option autoImplicit false

namespace DashboardExport.Configuration

open Decoding Storage

/-! ## The configuration file -/

/-- The configuration file that is read: the one that the caller asks for, or else the one that is
found. -/
inductive Located (environment : Variables) (files : FileStore) : Option String → Path → Prop where
  | asked (text : String) : Located environment files (some text) (Path.ofText text)
  | found {path : Path} (there : findFile environment files = .ok (some path)) :
      Located environment files none (Path.ofText path.text)

/-- The entries that the configuration file gives: none if nobody asks for a file and there is none
either. -/
inductive Configured (reader : Yaml.FileReader) (environment : Variables) (files : FileStore)
    (asked : Option String) : Entries → Prop where
  | file {path : Path} {entries : Entries} (located : Located environment files asked path)
      (read : readMapping reader files path = .ok entries) :
      Configured reader environment files asked entries
  | nothing (unasked : asked = none) (nowhere : findFile environment files = .ok none) :
      Configured reader environment files asked []

theorem fileEntries_eq_ok_iff {reader : Yaml.FileReader} {environment : Variables}
    {files : FileStore} {asked : Option String} {entries : Entries} :
    fileEntries reader environment files asked = .ok entries ↔
      Configured reader environment files asked entries := by
  cases asked with
  | some text =>
      constructor
      · exact fun read => .file (.asked text) read
      · rintro (⟨⟨⟩, read⟩ | ⟨⟨⟩, _⟩)
        exact read
  | none =>
      rw [fileEntries, except_bind_eq_ok_iff]
      constructor
      · rintro ⟨found, search, read⟩
        cases found with
        | none =>
            cases read
            exact .nothing rfl search
        | some path => exact .file (.found search) read
      · intro configured
        cases configured with
        | file located read =>
            cases located with
            | found there => exact ⟨_, there, read⟩
        | nothing _ nowhere => exact ⟨none, nowhere, rfl⟩

/-- The setting that the configuration file gives under a name. -/
def Entries.setting? (entries : Entries) (name : String) : Option Scalar :=
  (Yaml.Value.lookup? name entries).map Yaml.Value.toScalar

/-! ## The profile -/

/-- The profile that is named: by the caller, or else by the configuration file, or else by the
environment.  An empty name names nothing. -/
inductive Names (wanted : Wanted) (entries : Entries) (given : Variables) : Yaml.Value → Prop where
  | caller {name : String} (called : wanted.profile = some name) (nonempty : name ≠ "") :
      Names wanted entries given (.str name)
  | file {name : Yaml.Value} (uncalled : ∀ other, wanted.profile = some other → other = "")
      (written : Yaml.Value.lookup? "profile" entries = some name)
      (nonempty : name.isTruthy = true) : Names wanted entries given name
  | environment {name : String} (uncalled : ∀ other, wanted.profile = some other → other = "")
      (unwritten : ∀ other, Yaml.Value.lookup? "profile" entries = some other →
        other.isTruthy = false)
      (set : given.lookup "DATABRICKS_CONFIG_PROFILE" = some name) (nonempty : name ≠ "") :
      Names wanted entries given (.str name)

theorem isTruthy_str {text : String} : (Yaml.Value.str text).isTruthy = true ↔ text ≠ "" := by
  rw [Yaml.Value.isTruthy, bne_iff_ne]

theorem truthy_str_eq_none_iff {text : Option String} :
    truthy (text.map .str) = none ↔ ∀ other, text = some other → other = "" := by
  cases text with
  | none => simp [truthy]
  | some text => simp [truthy, Yaml.Value.isTruthy]

theorem truthy_str_eq_some_iff {text : Option String} {name : Yaml.Value} :
    truthy (text.map .str) = some name ↔ ∃ called, text = some called ∧ called ≠ "" ∧
      name = .str called := by
  cases text with
  | none => simp [truthy]
  | some text =>
      simp only [truthy, Option.map_some, Option.filter_eq_some_iff, Option.some.injEq,
        exists_eq_left']
      constructor
      · rintro ⟨rfl, nonempty⟩
        exact ⟨isTruthy_str.1 nonempty, rfl⟩
      · rintro ⟨nonempty, rfl⟩
        exact ⟨rfl, isTruthy_str.2 nonempty⟩

theorem profileName?_eq_some_iff {wanted : Wanted} {entries : Entries} {given : Variables}
    {name : Yaml.Value} :
    profileName? wanted entries given = some name ↔ Names wanted entries given name := by
  have unwritten : truthy (Yaml.Value.lookup? "profile" entries) = none ↔
      ∀ other, Yaml.Value.lookup? "profile" entries = some other → other.isTruthy = false := by
    simp [truthy, Option.filter_eq_none_iff]
  rw [profileName?, Option.or_eq_some_iff, Option.or_eq_some_iff, truthy_str_eq_some_iff,
    truthy_str_eq_some_iff, truthy_str_eq_none_iff, unwritten, truthy, Option.filter_eq_some_iff]
  constructor
  · rintro (⟨_, called, nonempty, rfl⟩ | ⟨uncalled, ⟨written, nonempty⟩ |
      ⟨unwritten, _, set, nonempty, rfl⟩⟩)
    · exact .caller called nonempty
    · exact .file uncalled written nonempty
    · exact .environment uncalled unwritten set nonempty
  · rintro (⟨called, nonempty⟩ | ⟨uncalled, written, nonempty⟩ |
      ⟨uncalled, unwritten, set, nonempty⟩)
    · exact .inl ⟨_, called, nonempty, rfl⟩
    · exact .inr ⟨uncalled, .inl ⟨written, nonempty⟩⟩
    · exact .inr ⟨uncalled, .inr ⟨unwritten, _, set, nonempty, rfl⟩⟩

theorem profileName?_eq_none_iff {wanted : Wanted} {entries : Entries} {given : Variables} :
    profileName? wanted entries given = none ↔ ∀ name, ¬ Names wanted entries given name := by
  simp only [← profileName?_eq_some_iff, Option.eq_none_iff_forall_ne_some]

/-- What is taken from the profile file. -/
inductive ProfileUse where
  /-- The section that a profile is named by. -/
  | named (profiles : Profiles) (sectionName : String)
  /-- The options that hold in all sections, because no profile is named. -/
  | unnamed (profiles : Profiles)
  | nothing

/-- The use that is made of the profile file.  A profile that is named has to be there; if none is
named, the file need not be there. -/
inductive Profiled (environment given : Variables) (wanted : Wanted) (files : FileStore)
    (entries : Entries) : ProfileUse → Prop where
  | named {path : Path} {sectionName : String} {profiles : Profiles}
      (located : profilePath files.homes environment given = .ok path)
      (named : Names wanted entries given (.str sectionName))
      (read : readProfiles files path = .ok profiles)
      (known : profiles.hasSection sectionName = true) :
      Profiled environment given wanted files entries (.named profiles sectionName)
  | unnamed {path : Path} {profiles : Profiles}
      (located : profilePath files.homes environment given = .ok path)
      (unnamed : ∀ name, ¬ Names wanted entries given name)
      (there : files.checkFile path = .ok true) (read : readProfiles files path = .ok profiles) :
      Profiled environment given wanted files entries (.unnamed profiles)
  | nothing {path : Path} (located : profilePath files.homes environment given = .ok path)
      (unnamed : ∀ name, ¬ Names wanted entries given name)
      (missing : files.checkFile path = .ok false) :
      Profiled environment given wanted files entries .nothing

theorem readProfile_str_eq_ok_iff {files : FileStore} {path : Path} {sectionName : String}
    {profile : Profile} :
    readProfile files path (.str sectionName) = .ok profile ↔ ∃ profiles,
      readProfiles files path = .ok profiles ∧ profiles.hasSection sectionName = true ∧
        profile = profiles.profile sectionName := by
  rw [readProfile, except_bind_eq_ok_iff]
  refine exists_congr fun profiles => and_congr_right fun _ => ?_
  by_cases known : profiles.hasSection sectionName = true
  · simp only [known, if_true, except_pure_eq_ok_iff, true_and]
  · simp [known]

/-- Only a text names a profile that is there. -/
theorem exists_str_of_readProfile {files : FileStore} {path : Path} {name : Yaml.Value}
    {profile : Profile} (read : readProfile files path name = .ok profile) :
    ∃ sectionName, name = .str sectionName := by
  obtain ⟨_, _, read⟩ := except_bind_eq_ok_iff.1 read
  split at read
  · exact ⟨_, rfl⟩
  · cases read
  · cases read

theorem hasSection_defaultSection (profiles : Profiles) :
    profiles.hasSection Profiles.defaultSection = true := by
  rw [Profiles.hasSection, beq_self_eq_true, Bool.true_or]

/-- The settings of the file and of the profile in use. -/
def ProfileUse.settings (entries : Entries) : ProfileUse → Settings
  | .named profiles sectionName =>
    (settingsOf entries).withOver (profiles.profile sectionName).settings
  | .unnamed profiles =>
    (profiles.profile Profiles.defaultSection).settings.withOver (settingsOf entries)
  | .nothing => settingsOf entries

theorem profiledSettings_eq_ok_iff {environment given : Variables} {wanted : Wanted}
    {files : FileStore} {entries : Entries} {settings : Settings} :
    (∃ path, profilePath files.homes environment given = .ok path ∧
      profiledSettings files (profileName? wanted entries given) path (settingsOf entries) =
        .ok settings) ↔
      ∃ use, Profiled environment given wanted files entries use ∧
        settings = use.settings entries := by
  cases called : profileName? wanted entries given with
  | some name =>
      have named := profileName?_eq_some_iff.1 called
      constructor
      · rintro ⟨path, located, made⟩
        obtain ⟨profile, read, made⟩ := except_bind_eq_ok_iff.1 made
        obtain ⟨sectionName, rfl⟩ := exists_str_of_readProfile read
        obtain ⟨profiles, readable, known, rfl⟩ := readProfile_str_eq_ok_iff.1 read
        cases made
        exact ⟨_, .named located named readable known, rfl⟩
      · rintro ⟨use, profiled, rfl⟩
        cases profiled with
        | named located other read known =>
            cases called.symm.trans (profileName?_eq_some_iff.2 other)
            exact ⟨_, located, except_bind_eq_ok_iff.2
              ⟨_, readProfile_str_eq_ok_iff.2 ⟨_, read, known, rfl⟩, rfl⟩⟩
        | unnamed _ unnamed _ _ => exact absurd named (unnamed name)
        | nothing _ unnamed _ => exact absurd named (unnamed name)
  | none =>
      have unnamed := profileName?_eq_none_iff.1 called
      constructor
      · rintro ⟨path, located, made⟩
        obtain ⟨there, checked, made⟩ := except_bind_eq_ok_iff.1 made
        rw [except_mapError_eq_ok_iff] at checked
        cases there with
        | false =>
            cases made
            exact ⟨_, .nothing located unnamed checked, rfl⟩
        | true =>
            obtain ⟨profile, read, made⟩ := except_bind_eq_ok_iff.1 made
            obtain ⟨profiles, readable, _, rfl⟩ := readProfile_str_eq_ok_iff.1 read
            cases made
            exact ⟨_, .unnamed located unnamed checked readable, rfl⟩
      · rintro ⟨use, profiled, rfl⟩
        cases profiled with
        | named _ named _ _ => exact absurd named (unnamed _)
        | unnamed located _ there read =>
            exact ⟨_, located, except_bind_eq_ok_iff.2 ⟨true, except_mapError_eq_ok_iff.2 there,
              except_bind_eq_ok_iff.2 ⟨_, readProfile_str_eq_ok_iff.2
                ⟨_, read, hasSection_defaultSection _, rfl⟩, rfl⟩⟩⟩
        | nothing located _ missing =>
            exact ⟨_, located, except_bind_eq_ok_iff.2
              ⟨false, except_mapError_eq_ok_iff.2 missing, rfl⟩⟩

/-! ## Host and token -/

/-- The option of a section that is not empty.  A section has the options that hold in all of
them, unless it has them itself. -/
def Profiles.nonempty? (profiles : Profiles) (sectionName name : String) : Option String :=
  (profiles.get? sectionName name).filter fun value => !value.isEmpty

/-- The two settings that give access to a workspace. -/
inductive Access where
  | host
  | token

namespace Access

/-- The name in files. -/
def name : Access → String
  | .host => "host"
  | .token => "token"

/-- The name of the variable. -/
def variableName : Access → String
  | .host => "DATABRICKS_HOST"
  | .token => "DATABRICKS_TOKEN"

def setting (access : Access) (settings : Settings) : Option Scalar :=
  match access with
  | .host => settings.host
  | .token => settings.token

theorem setting_withOver (access : Access) (settings stronger : Settings) :
    access.setting (settings.withOver stronger) =
      (access.setting stronger).or (access.setting settings) := by
  cases access with
  | host => rfl
  | token => rfl

theorem setting_withoutNulls (access : Access) (settings : Settings) :
    access.setting settings.withoutNulls = Settings.nonNull (access.setting settings) := by
  cases access with
  | host => rfl
  | token => rfl

theorem setting_environmentSettings (access : Access) (given : Variables) :
    access.setting (environmentSettings given) =
      (setVariable given access.variableName).map .text := by
  cases access with
  | host => rfl
  | token => rfl

theorem setting_settingsOf (access : Access) (entries : Entries) :
    access.setting (settingsOf entries) = entries.setting? access.name := by
  cases access with
  | host => rfl
  | token => rfl

theorem setting_profile (access : Access) (profiles : Profiles) (sectionName : String) :
    access.setting (profiles.profile sectionName).settings =
      (profiles.nonempty? sectionName access.name).map .text := by
  cases access with
  | host => rfl
  | token => rfl

end Access

/-- The setting of host or token that is chosen among the sources. -/
inductive Chosen (access : Access) (overrides : Settings) (given : Variables) (entries : Entries) :
    ProfileUse → Scalar → Prop where
  | override {use : ProfileUse} {setting : Scalar}
      (overridden : Settings.nonNull (access.setting overrides) = some setting) :
      Chosen access overrides given entries use setting
  | environment {use : ProfileUse} {text : String}
      (kept : Settings.nonNull (access.setting overrides) = none)
      (set : setVariable given access.variableName = some text) :
      Chosen access overrides given entries use (.text text)
  | profile {profiles : Profiles} {sectionName text : String}
      (kept : Settings.nonNull (access.setting overrides) = none)
      (unset : setVariable given access.variableName = none)
      (held : profiles.nonempty? sectionName access.name = some text) :
      Chosen access overrides given entries (.named profiles sectionName) (.text text)
  /-- The file stands behind a profile that is named, if this does not have the option. -/
  | fileBehind {profiles : Profiles} {sectionName : String} {setting : Scalar}
      (kept : Settings.nonNull (access.setting overrides) = none)
      (unset : setVariable given access.variableName = none)
      (lacking : profiles.nonempty? sectionName access.name = none)
      (written : entries.setting? access.name = some setting) :
      Chosen access overrides given entries (.named profiles sectionName) setting
  /-- If no profile is named, the file comes first, even with a setting that is null. -/
  | file {use : ProfileUse} {setting : Scalar}
      (kept : Settings.nonNull (access.setting overrides) = none)
      (unset : setVariable given access.variableName = none)
      (unnamed : ∀ profiles sectionName, use ≠ .named profiles sectionName)
      (written : entries.setting? access.name = some setting) :
      Chosen access overrides given entries use setting
  | default {profiles : Profiles} {text : String}
      (kept : Settings.nonNull (access.setting overrides) = none)
      (unset : setVariable given access.variableName = none)
      (unwritten : entries.setting? access.name = none)
      (held : profiles.nonempty? Profiles.defaultSection access.name = some text) :
      Chosen access overrides given entries (.unnamed profiles) (.text text)

/-- All settings, the stronger sources over the weaker ones. -/
def merged (overrides : Settings) (given : Variables) (entries : Entries) (use : ProfileUse) :
    Settings :=
  ((use.settings entries).withOver (environmentSettings given)).withOver overrides.withoutNulls

/-- **Putting the sources over each other chooses among them.** -/
theorem chosen_iff {access : Access} {overrides : Settings} {given : Variables} {entries : Entries}
    {use : ProfileUse} {setting : Scalar} :
    access.setting (merged overrides given entries use) = some setting ↔
      Chosen access overrides given entries use setting := by
  have texts {found : Option String} : found.map Scalar.text = some setting ↔
      ∃ text, found = some text ∧ setting = .text text := by
    rw [Option.map_eq_some_iff]
    exact exists_congr fun text => and_congr_right fun _ => eq_comm
  have lacking {found : Option String} : found.map Scalar.text = none ↔ found = none :=
    Option.map_eq_none_iff
  rw [merged, Access.setting_withOver, Access.setting_withOver, Option.or_eq_some_iff,
    Option.or_eq_some_iff, Access.setting_withoutNulls, Access.setting_environmentSettings, texts,
    lacking]
  cases use with
  | named profiles sectionName =>
      rw [ProfileUse.settings, Access.setting_withOver, Option.or_eq_some_iff,
        Access.setting_profile, Access.setting_settingsOf, texts, lacking]
      constructor
      · rintro (overridden | ⟨kept, ⟨_, set, rfl⟩ | ⟨unset, ⟨_, held, rfl⟩ | ⟨lacks, written⟩⟩⟩)
        · exact .override overridden
        · exact .environment kept set
        · exact .profile kept unset held
        · exact .fileBehind kept unset lacks written
      · intro chosen
        cases chosen with
        | override overridden => exact .inl overridden
        | environment kept set => exact .inr ⟨kept, .inl ⟨_, set, rfl⟩⟩
        | profile kept unset held => exact .inr ⟨kept, .inr ⟨unset, .inl ⟨_, held, rfl⟩⟩⟩
        | fileBehind kept unset lacks written =>
            exact .inr ⟨kept, .inr ⟨unset, .inr ⟨lacks, written⟩⟩⟩
        | file _ _ unnamed _ => exact absurd rfl (unnamed profiles sectionName)
  | unnamed profiles =>
      rw [ProfileUse.settings, Access.setting_withOver, Option.or_eq_some_iff,
        Access.setting_profile, Access.setting_settingsOf, texts]
      constructor
      · rintro (overridden | ⟨kept, ⟨_, set, rfl⟩ | ⟨unset, written | ⟨unwritten, _, held, rfl⟩⟩⟩)
        · exact .override overridden
        · exact .environment kept set
        · exact .file kept unset nofun written
        · exact .default kept unset unwritten held
      · intro chosen
        cases chosen with
        | override overridden => exact .inl overridden
        | environment kept set => exact .inr ⟨kept, .inl ⟨_, set, rfl⟩⟩
        | file kept unset _ written => exact .inr ⟨kept, .inr ⟨unset, .inl written⟩⟩
        | default kept unset unwritten held =>
            exact .inr ⟨kept, .inr ⟨unset, .inr ⟨unwritten, _, held, rfl⟩⟩⟩
  | nothing =>
      rw [ProfileUse.settings, Access.setting_settingsOf]
      constructor
      · rintro (overridden | ⟨kept, ⟨_, set, rfl⟩ | ⟨unset, written⟩⟩)
        · exact .override overridden
        · exact .environment kept set
        · exact .file kept unset nofun written
      · intro chosen
        cases chosen with
        | override overridden => exact .inl overridden
        | environment kept set => exact .inr ⟨kept, .inl ⟨_, set, rfl⟩⟩
        | file kept unset _ written => exact .inr ⟨kept, .inr ⟨unset, written⟩⟩

end DashboardExport.Configuration
