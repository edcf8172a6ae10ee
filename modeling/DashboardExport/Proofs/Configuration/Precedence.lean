import DashboardExport.Proofs.Configuration.Sources
import DashboardExport.Proofs.Decoding.Values
import DashboardExport.Proofs.Session
import Mathlib.Tactic.SplitIfs

/-!
# What a configuration is made of

A configuration that is loaded is determined setting by setting (`Determined`).  Host and token
are those of the source that is chosen, with the placeholders of that source expanded and no
others; every other setting is the caller's, or else that of the file, or else its default.
Loading succeeds exactly when the sources can be read and what is chosen makes a configuration
(`load_gives_iff`), so what the other sources hold does not matter.

A host that is given as a text always comes with a scheme.  One that is given as bytes is taken
as it is: it may lack the scheme, and its placeholders stay (`load_gives_schemeless`).
-/

set_option autoImplicit false

namespace DashboardExport.Configuration

open Decoding Storage

variable {environment given : Variables} {overrides : Settings} {entries : Entries}
  {use : ProfileUse} {configuration : Configuration}

/-! ## Settings with a default -/

/-- The settings that only the caller and the configuration file give. -/
inductive Preference where
  | timeout
  | outputDirectory
  | skipTableDefaults

namespace Preference

/-- The name in files. -/
def name : Preference → String
  | .timeout => "timeout"
  | .outputDirectory => "output_dir"
  | .skipTableDefaults => "skip_table_defaults"

def setting (preference : Preference) (settings : Settings) : Option Scalar :=
  match preference with
  | .timeout => settings.timeout
  | .outputDirectory => settings.outputDirectory
  | .skipTableDefaults => settings.skipTableDefaults

theorem setting_use (preference : Preference) (entries : Entries) (use : ProfileUse) :
    preference.setting (use.settings entries) = entries.setting? preference.name := by
  cases use with
  | named profiles sectionName =>
      cases preference with
      | timeout => rfl
      | outputDirectory => rfl
      | skipTableDefaults => rfl
  | unnamed profiles =>
      cases preference with
      | timeout => exact Option.or_none
      | outputDirectory => exact Option.or_none
      | skipTableDefaults => exact Option.or_none
  | nothing =>
      cases preference with
      | timeout => rfl
      | outputDirectory => rfl
      | skipTableDefaults => rfl

theorem setting_merged (preference : Preference) :
    preference.setting (merged overrides given entries use) =
      (Settings.nonNull (preference.setting overrides)).or (entries.setting? preference.name) := by
  rw [← setting_use preference entries use]
  cases preference with
  | timeout => rfl
  | outputDirectory => rfl
  | skipTableDefaults => rfl

end Preference

/-- The value of a setting: the caller's, or else that of the file, or else the default. -/
inductive Takes {α : Type} (read : Scalar → Except Fault α) (default : α)
    (override written : Option Scalar) : α → Prop where
  | override {setting : Scalar} {value : α} (overridden : Settings.nonNull override = some setting)
      (reads : read setting = .ok value) : Takes read default override written value
  | file {setting : Scalar} {value : α} (kept : Settings.nonNull override = none)
      (given : written = some setting) (reads : read setting = .ok value) :
      Takes read default override written value
  | default (kept : Settings.nonNull override = none) (unwritten : written = none) :
      Takes read default override written default

theorem readSetting_eq_value_iff {α : Type} {name : String} {default value : α}
    {read : Scalar → Except Fault α} {setting : Option Scalar} :
    readSetting name default read setting = .value value ↔
      (∃ given, setting = some given ∧ read given = .ok value) ∨
        setting = none ∧ value = default := by
  cases setting with
  | none => simp [readSetting, eq_comm]
  | some given =>
      cases here : read given with
      | error fault => simp [readSetting, here]
      | ok result => simp [readSetting, here]

/-- Neither the environment nor a profile has a say in these settings. -/
theorem takes_merged_iff (preference : Preference) {α : Type} {name : String} {default value : α}
    {read : Scalar → Except Fault α} :
    readSetting name default read (preference.setting (merged overrides given entries use)) =
        .value value ↔
      Takes read default (preference.setting overrides) (entries.setting? preference.name)
        value := by
  rw [readSetting_eq_value_iff, Preference.setting_merged]
  simp only [Option.or_eq_some_iff, Option.or_eq_none_iff]
  constructor
  · rintro (⟨setting, overridden | ⟨kept, given⟩, reads⟩ | ⟨⟨kept, unwritten⟩, rfl⟩)
    · exact .override overridden reads
    · exact .file kept given reads
    · exact .default kept unwritten
  · rintro (⟨overridden, reads⟩ | ⟨kept, given, reads⟩ | ⟨kept, unwritten⟩)
    · exact .inl ⟨_, .inl overridden, reads⟩
    · exact .inl ⟨_, .inr ⟨kept, given⟩, reads⟩
    · exact .inr ⟨⟨kept, unwritten⟩, rfl⟩

/-! ## Host and token -/

/-- A host with a colon and two slashes in it. -/
def HasScheme (host : String) : Prop := [':', '/', '/'] <:+: host.toList

instance (host : String) : Decidable (HasScheme host) :=
  inferInstanceAs (Decidable (_ <:+: _))

theorem hasSchemeMark_iff {chars : List Char} :
    hasSchemeMark chars = true ↔ [':', '/', '/'] <:+: chars := by
  induction chars with
  | nil => simp [hasSchemeMark]
  | cons c rest ih =>
      rw [hasSchemeMark, Bool.or_eq_true, List.isPrefixOf_iff_prefix, ih, List.infix_cons_iff]

/-- A host that is not empty has a scheme afterwards. -/
theorem hasScheme_withScheme {host : String} (nonempty : withScheme host ≠ "") :
    HasScheme (withScheme host) := by
  rw [withScheme] at nonempty ⊢
  split_ifs at nonempty ⊢ with kept
  · rcases Bool.or_eq_true_iff.1 kept with empty | marked
    · exact absurd (String.isEmpty_iff.1 empty) nonempty
    · exact hasSchemeMark_iff.1 marked
  · exact ⟨"https".toList, host.toList, by rw [String.toList_append]; rfl⟩

/-- The text that a setting for host or token ends up as.  A text has its placeholders expanded, and
a host then gets a scheme; bytes are decoded, and that is all. -/
inductive Finished (environment : Variables) : Access → Scalar → String → Prop where
  | host {text expanded : String} (expands : expand environment text = .ok expanded) :
      Finished environment .host (.text text) (withScheme expanded)
  | token {text expanded : String} (expands : expand environment text = .ok expanded) :
      Finished environment .token (.text text) expanded
  | bytes {access : Access} {contents : List UInt8} {text : String}
      (decodes : textOfBytes contents .notUnicode = .ok text) :
      Finished environment access (.bytes contents) text

/-- Reads a setting for host or token. -/
def Access.read (access : Access) (setting : Scalar) : Except Fault (Option String) :=
  match access with
  | .host => readText (schemed setting)
  | .token => readText setting

theorem read_eq_ok_iff {access : Access} {setting : Scalar} {text : String} :
    access.read setting = .ok (some text) ↔
      (schemed setting).string = .ok text ∧ access = .host ∨
        setting.string = .ok text ∧ access = .token := by
  have reads (other : Scalar) : readText other = .ok (some text) ↔ other.string = .ok text := by
    cases other with
    | null => simp [readText, Scalar.string]
    | _ => simp [readText, except_map_eq_ok_iff]
  cases access with
  | host => simp [Access.read, reads]
  | token => simp [Access.read, reads]

/-- The settings that can be read are texts and bytes. -/
theorem finished_iff {access : Access} {setting : Scalar} {text : String} :
    (∃ expanded, expandSetting environment (some setting) = .ok (some expanded) ∧
      access.read expanded = .ok (some text)) ↔ Finished environment access setting text := by
  simp only [read_eq_ok_iff]
  constructor
  · rintro ⟨expanded, expands, reads⟩
    cases setting with
    | text written =>
        obtain ⟨result, replaced, same⟩ := except_map_eq_ok_iff.1 expands
        cases same
        rcases reads with ⟨reads, rfl⟩ | ⟨reads, rfl⟩
        · cases reads
          exact .host replaced
        · cases reads
          exact .token replaced
    | bytes contents =>
        cases expands
        rcases reads with ⟨reads, rfl⟩ | ⟨reads, rfl⟩
        · exact .bytes reads
        · exact .bytes reads
    | _ =>
        cases expands
        rcases reads with ⟨reads, -⟩ | ⟨reads, -⟩
        · cases reads
        · cases reads
  · intro finished
    cases finished with
    | host expands =>
        exact ⟨_, except_map_eq_ok_iff.2 ⟨_, expands, rfl⟩, .inl ⟨rfl, rfl⟩⟩
    | token expands =>
        exact ⟨_, except_map_eq_ok_iff.2 ⟨_, expands, rfl⟩, .inr ⟨rfl, rfl⟩⟩
    | bytes decodes =>
        cases access with
        | host => exact ⟨_, rfl, .inl ⟨decodes, rfl⟩⟩
        | token => exact ⟨_, rfl, .inr ⟨decodes, rfl⟩⟩

/-- Host or token is there when a setting is chosen that can be read. -/
theorem access_iff {access : Access} {text : String} :
    (∃ expanded, expandSetting environment (access.setting (merged overrides given entries use)) =
        .ok expanded ∧
      readSetting access.name none access.read expanded = .value (some text)) ↔
      ∃ setting, Chosen access overrides given entries use setting ∧
        Finished environment access setting text := by
  simp only [← chosen_iff, ← finished_iff, readSetting_eq_value_iff]
  cases access.setting (merged overrides given entries use) with
  | none => simp [expandSetting]
  | some setting =>
      simp only [Option.some.injEq, reduceCtorEq, and_false, or_false]
      constructor
      · rintro ⟨_, expands, given, rfl, reads⟩
        exact ⟨setting, rfl, given, expands, reads⟩
      · rintro ⟨_, rfl, expanded, expands, reads⟩
        exact ⟨_, expands, expanded, rfl, reads⟩

theorem hasScheme_or_bytes {setting : Scalar} {host : String}
    (finished : Finished environment .host setting host) (nonempty : host ≠ "") :
    HasScheme host ∨ ∃ contents, setting = .bytes contents := by
  cases finished with
  | host _ => exact .inl (hasScheme_withScheme nonempty)
  | bytes _ => exact .inr ⟨_, rfl⟩

/-! ## Configurations -/

theorem expandSettings_eq_ok_iff {settings expanded : Settings} :
    expandSettings environment settings = .ok expanded ↔ ∃ host token,
      expandSetting environment settings.host = .ok host ∧
        expandSetting environment settings.token = .ok token ∧
        expanded = { settings with host, token } := by
  rw [expandSettings, except_bind_eq_ok_iff]
  simp only [except_bind_eq_ok_iff, except_pure_eq_ok_iff, exists_and_left]

/-- A draft is complete when host and token are there and not empty. -/
theorem complete_eq_ok_iff {draft : Draft} :
    draft.complete = .ok configuration ↔
      configuration.host ≠ "" ∧ configuration.token ≠ "" ∧
        draft = ⟨some configuration.host, some configuration.token, configuration.timeout,
          configuration.outputDirectory, configuration.skipTableDefaults⟩ := by
  obtain ⟨host, token, timeout, outputDirectory, skipTableDefaults⟩ := draft
  simp only [Draft.complete, String.isEmpty_iff]
  cases host with
  | none => simp
  | some host =>
      cases token with
      | none => grind
      | some token =>
          cases configuration
          grind

theorem draft_eq_value_iff {settings : Settings} {draft : Draft} :
    Draft.ofSettings settings = .value draft ↔
      readSetting "host" none Access.host.read settings.host = .value draft.host ∧
      readSetting "token" none Access.token.read settings.token = .value draft.token ∧
      readSetting "timeout" defaultTimeout Scalar.number settings.timeout =
        .value draft.timeout ∧
      readSetting "output_dir" defaultOutputDirectory readPath settings.outputDirectory =
        .value draft.outputDirectory ∧
      readSetting "skip_table_defaults" defaultSkipTableDefaults Scalar.boolean
        settings.skipTableDefaults = .value draft.skipTableDefaults := by
  rw [Draft.ofSettings]
  simp only [Outcome.seq_eq_value_iff, Outcome.map_eq_value_iff]
  constructor
  · rintro ⟨_, _, ⟨_, _, ⟨_, _, ⟨_, _, ⟨_, host, rfl⟩, token, rfl⟩, timeout, rfl⟩, directory, rfl⟩,
      skip, rfl⟩
    exact ⟨host, token, timeout, directory, skip⟩
  · rintro ⟨host, token, timeout, directory, skip⟩
    exact ⟨_, _, ⟨_, _, ⟨_, _, ⟨_, _, ⟨_, host, rfl⟩, token, rfl⟩, timeout, rfl⟩, directory, rfl⟩,
      skip, rfl⟩

theorem ofSettings_eq_ok_iff {settings : Settings} :
    ofSettings settings = .ok configuration ↔
      configuration.host ≠ "" ∧ configuration.token ≠ "" ∧
      readSetting "host" none Access.host.read settings.host = .value (some configuration.host) ∧
      readSetting "token" none Access.token.read settings.token =
        .value (some configuration.token) ∧
      readSetting "timeout" defaultTimeout Scalar.number settings.timeout =
        .value configuration.timeout ∧
      readSetting "output_dir" defaultOutputDirectory readPath settings.outputDirectory =
        .value configuration.outputDirectory ∧
      readSetting "skip_table_defaults" defaultSkipTableDefaults Scalar.boolean
        settings.skipTableDefaults = .value configuration.skipTableDefaults := by
  have made : ofSettings settings = .ok configuration ↔
      ∃ draft, Draft.ofSettings settings = .value draft ∧ draft.complete = .ok configuration := by
    rw [ofSettings]
    cases Draft.ofSettings settings with
    | value draft => simp
    | invalid issues => simp
    | rejected rejection => simp
  rw [made]
  simp only [complete_eq_ok_iff, draft_eq_value_iff]
  constructor
  · rintro ⟨_, read, host, token, rfl⟩
    exact ⟨host, token, read⟩
  · rintro ⟨host, token, read⟩
    exact ⟨_, read, host, token, rfl⟩

/-- A configuration is determined by its sources, setting by setting. -/
structure Determined (environment given : Variables) (overrides : Settings) (entries : Entries)
    (use : ProfileUse) (configuration : Configuration) : Prop where
  host : ∃ setting, Chosen .host overrides given entries use setting ∧
    Finished environment .host setting configuration.host
  token : ∃ setting, Chosen .token overrides given entries use setting ∧
    Finished environment .token setting configuration.token
  timeout : Takes Scalar.number defaultTimeout overrides.timeout (entries.setting? "timeout")
    configuration.timeout
  outputDirectory : Takes readPath defaultOutputDirectory overrides.outputDirectory
    (entries.setting? "output_dir") configuration.outputDirectory
  skipTableDefaults : Takes Scalar.boolean defaultSkipTableDefaults overrides.skipTableDefaults
    (entries.setting? "skip_table_defaults") configuration.skipTableDefaults
  hostGiven : configuration.host ≠ ""
  tokenGiven : configuration.token ≠ ""
  /-- Only a host that is chosen as bytes can be without a scheme. -/
  scheme : HasScheme configuration.host ∨
    ∃ contents, Chosen .host overrides given entries use (.bytes contents)

theorem determined_iff :
    (∃ expanded, expandSettings environment (merged overrides given entries use) = .ok expanded ∧
      ofSettings expanded = .ok configuration) ↔
      Determined environment given overrides entries use configuration := by
  constructor
  · rintro ⟨_, expands, made⟩
    obtain ⟨host, token, hostExpands, tokenExpands, rfl⟩ := expandSettings_eq_ok_iff.1 expands
    obtain ⟨hostGiven, tokenGiven, hostReads, tokenReads, timeout, directory, skip⟩ :=
      ofSettings_eq_ok_iff.1 made
    obtain ⟨setting, chosen, finished⟩ := access_iff.1 ⟨host, hostExpands, hostReads⟩
    exact {
      host := ⟨setting, chosen, finished⟩
      token := access_iff.1 ⟨token, tokenExpands, tokenReads⟩
      timeout := (takes_merged_iff .timeout).1 timeout
      outputDirectory := (takes_merged_iff .outputDirectory).1 directory
      skipTableDefaults := (takes_merged_iff .skipTableDefaults).1 skip
      hostGiven, tokenGiven
      scheme := (hasScheme_or_bytes finished hostGiven).imp_right fun ⟨contents, bytes⟩ =>
        ⟨contents, bytes ▸ chosen⟩ }
  · intro determined
    obtain ⟨host, hostExpands, hostReads⟩ := access_iff.2 determined.host
    obtain ⟨token, tokenExpands, tokenReads⟩ := access_iff.2 determined.token
    exact ⟨_, expandSettings_eq_ok_iff.2 ⟨host, token, hostExpands, tokenExpands, rfl⟩,
      ofSettings_eq_ok_iff.2 ⟨determined.hostGiven, determined.tokenGiven, hostReads, tokenReads,
        (takes_merged_iff .timeout).2 determined.timeout,
        (takes_merged_iff .outputDirectory).2 determined.outputDirectory,
        (takes_merged_iff .skipTableDefaults).2 determined.skipTableDefaults⟩⟩

theorem loaded_eq_ok_iff {reader : Yaml.FileReader} {wanted : Wanted} {files : FileStore} :
    loaded reader environment given wanted files = .ok configuration ↔
      ∃ entries use, Configured reader environment files wanted.path entries ∧
        Profiled environment given wanted files entries use ∧
        Determined environment given wanted.overrides entries use configuration := by
  simp only [loaded, except_bind_eq_ok_iff, fileEntries_eq_ok_iff, except_mapError_eq_ok_iff]
  constructor
  · rintro ⟨entries, configured, path, located, settings, settled, made⟩
    obtain ⟨use, profiled, rfl⟩ := profiledSettings_eq_ok_iff.1 ⟨path, located, settled⟩
    exact ⟨entries, use, configured, profiled, determined_iff.1 made⟩
  · rintro ⟨entries, use, configured, profiled, determined⟩
    obtain ⟨path, located, settled⟩ := profiledSettings_eq_ok_iff.2 ⟨use, profiled, rfl⟩
    exact ⟨entries, configured, path, located, _, settled, determined_iff.2 determined⟩

/-- **What a loaded configuration is made of.**  Loading gives a configuration, and leaves the files
as they are, exactly when the configuration file and the profile can be read and the configuration
is the one that the sources determine. -/
theorem load_gives_iff {wanted : Wanted} {files last : FileStore} :
    Session.Gives (load environment given wanted) files last configuration ↔
      last = files ∧ ∃ entries use,
        Configured Yaml.Value.ofFile environment files wanted.path entries ∧
        Profiled environment given wanted files entries use ∧
        Determined environment given wanted.overrides entries use configuration := by
  obtain ⟨stays, ends⟩ := settles_loadWith Yaml.Value.ofFile environment given wanted files
  rw [load, Session.gives_iff, stays, ends, except_mapError_eq_ok_iff, loaded_eq_ok_iff]
  exact and_congr_left' eq_comm

/-- A configuration file with a host without a scheme and a token with a placeholder, both given as
bytes. -/
def bytesFile : FileStore where
  entries := [(["c.yaml"], .file
    "host: !!binary ZXhhbXBsZS5jb20=\ntoken: !!binary JHtUfQ==\n".toUTF8.toList)]
  workingDirectory := []

/-- What is given as bytes is taken as it is. -/
theorem load_gives_schemeless :
    ((load [("HOME", "/home"), ("T", "secret")] [] ⟨some "c.yaml", none, Settings.none⟩
        bytesFile).result.toOption.map
      fun configuration => (configuration.host, configuration.token)) =
      some ("example.com", "$\x7bT\x7d") ∧
    ¬ HasScheme "example.com" := by
  decide +kernel

end DashboardExport.Configuration
