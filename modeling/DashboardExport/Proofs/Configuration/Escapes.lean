import DashboardExport.Proofs.Configuration.Sources
import DashboardExport.Proofs.Storage.FileStore

/-!
# When loading the configuration ends the program

Loading gives a configuration, or it fails in good order, except where the sources hold what
the steps do not expect (`Escapes`): a configuration file with a fault that its reader does not
foresee; a profile file that is not UTF-8; a collection, or an integer too long for a message,
where a profile is named; a path that no file can have; and a home directory that is not known.
In the model these are all the ways in which loading ends the program (`load_escapes_iff`),
whatever the reader of the configuration file is.

Each step is looked at for the problems that break it without being reported (`Breaks`).
Placeholders are never among them, and neither are settings that do not fit.

What would end the program from outside is not modelled: a signal, no more memory, and a file
nested so deep that the interpreter gives up.
-/

set_option autoImplicit false

namespace DashboardExport.Configuration

open Decoding Storage

variable {reader : Yaml.FileReader} {environment given : Variables} {wanted : Wanted}
  {files : FileStore} {problem : Problem} {path : Path}

/-! ## Steps that break -/

/-- A step meets a problem that is not reported. -/
def Breaks {α : Type} (step : Except Problem α) (problem : Problem) : Prop :=
  step = .error problem ∧ problem.reported = false

theorem breaks_bind_iff {α β : Type} {first : Except Problem α} {next : α → Except Problem β} :
    Breaks (first >>= next) problem ↔
      Breaks first problem ∨ ∃ value, first = .ok value ∧ Breaks (next value) problem := by
  rw [Breaks, except_bind_eq_error_iff, or_and_right]
  refine or_congr_right ?_
  constructor
  · rintro ⟨⟨value, made, failed⟩, unreported⟩
    exact ⟨value, made, failed, unreported⟩
  · rintro ⟨value, made, failed, unreported⟩
    exact ⟨⟨value, made, failed⟩, unreported⟩

/-- A step all of whose problems are reported. -/
theorem not_breaks {α : Type} {step : Except Problem α}
    (reports : ∀ problem, step = .error problem → problem.reported = true) :
    ¬ Breaks step problem := by
  rintro ⟨failed, unreported⟩
  rw [reports problem failed] at unreported
  cases unreported

theorem not_breaks_pure {α : Type} {value : α} : ¬ Breaks (pure value) problem :=
  not_breaks fun _ => nofun

/-! ## The configuration file -/

/-- A configuration file cannot be read, and nobody expects it. -/
inductive Misread (reader : Yaml.FileReader) (files : FileStore) (path : Path) :
    Problem → Prop where
  /-- The path is one that no file can have. -/
  | path {error : SystemError} (refused : files.read path = .error error)
      (impossible : error.fault.fromSystem = false) :
      Misread reader files path (.unreadable path error)
  /-- The file has a fault that is not one of YAML files. -/
  | contents {contents : List UInt8} {fault : Yaml.Fault} (there : files.read path = .ok contents)
      (unread : reader contents = .error fault) (unforeseen : fault ≠ .malformed) :
      Misread reader files path (.unforeseen fault)

theorem breaks_readMapping_iff : Breaks (readMapping reader files path) problem ↔
    Misread reader files path problem := by
  constructor
  · rintro ⟨failed, unreported⟩
    rw [readMapping] at failed
    split at failed
    · rename_i error refused
      cases failed
      exact .path refused unreported
    · rename_i contents there
      split at failed
      · cases failed
        cases unreported
      · rename_i fault unforeseen unread
        cases failed
        exact .contents there unread unforeseen
      · cases failed
      · split at failed
        · cases failed
          cases unreported
        · cases failed
  · intro misread
    cases misread with
    | path refused impossible => exact ⟨by rw [readMapping, refused], impossible⟩
    | contents there unread unforeseen =>
        refine ⟨?_, rfl⟩
        rw [readMapping, there]
        simp only [unread]

/-- The search for a file stops at the first path that is too long to be looked up. -/
theorem firstFile_eq_error_iff {paths : List Path} :
    firstFile files paths = .error problem ↔
      ∃ before path after error, paths = before ++ path :: after ∧
        (∀ other ∈ before, files.checkFile other = .ok false) ∧
        files.checkFile path = .error error ∧ problem = .unusablePath error := by
  induction paths with
  | nil => simp [firstFile]
  | cons first rest ih =>
      rw [firstFile]
      constructor
      · intro failed
        split at failed
        · rename_i error long
          cases failed
          exact ⟨[], first, rest, error, rfl, fun _ => nofun, long, rfl⟩
        · cases failed
        · rename_i missing
          obtain ⟨before, path, after, error, rfl, each, long, rfl⟩ := ih.1 failed
          exact ⟨first :: before, path, after, error, rfl,
            List.forall_mem_cons.2 ⟨missing, each⟩, long, rfl⟩
      · rintro ⟨before, path, after, error, listed, each, long, rfl⟩
        cases before with
        | nil =>
            cases listed
            rw [long]
        | cons other before =>
            cases listed
            obtain ⟨missing, each⟩ := List.forall_mem_cons.1 each
            simp only [missing]
            exact ih.2 ⟨before, path, after, error, rfl, each, long, rfl⟩

/-- A configuration file that nobody asks for is looked for in places that are too long. -/
inductive Unsearchable (environment : Variables) (files : FileStore) : Problem → Prop where
  | place {before after : List Path} {path : Path} {error : SystemError}
      (listed : searchPaths.map
        (Path.ofText ((environment.lookup "SQLEXPORT_ROOT").getD ".")).join =
          before ++ path :: after)
      (missing : ∀ other ∈ before, files.checkFile other = .ok false)
      (long : files.checkFile path = .error error) :
      Unsearchable environment files (.unusablePath error)

theorem breaks_findFile_iff :
    Breaks (findFile environment files) problem ↔ Unsearchable environment files problem := by
  rw [Breaks, findFile, firstFile_eq_error_iff]
  constructor
  · rintro ⟨⟨_, _, _, _, listed, missing, long, rfl⟩, -⟩
    exact .place listed missing long
  · rintro ⟨listed, missing, long⟩
    exact ⟨⟨_, _, _, _, listed, missing, long, rfl⟩, rfl⟩

theorem breaks_fileEntries_iff :
    Breaks (fileEntries reader environment files wanted.path) problem ↔
      (wanted.path = none ∧ Unsearchable environment files problem) ∨
        ∃ path, Located environment files wanted.path path ∧
          Misread reader files path problem := by
  cases wanted.path with
  | some text =>
      rw [fileEntries, breaks_readMapping_iff]
      constructor
      · exact fun misread => .inr ⟨_, .asked text, misread⟩
      · rintro (⟨⟨⟩, _⟩ | ⟨_, ⟨⟩, misread⟩)
        exact misread
  | none =>
      rw [fileEntries, breaks_bind_iff, breaks_findFile_iff]
      refine or_congr (by simp) ?_
      constructor
      · rintro ⟨found, there, broken⟩
        cases found with
        | none => cases broken.1
        | some path => exact ⟨_, .found there, breaks_readMapping_iff.1 broken⟩
      · rintro ⟨_, located, misread⟩
        cases located with
        | found there => exact ⟨_, there, breaks_readMapping_iff.2 misread⟩

/-! ## The profile -/

/-- A home directory that is not known is never reported. -/
theorem breaks_profilePath_iff :
    Breaks (profilePath files.homes environment given) problem ↔
      profilePath files.homes environment given = .error problem := by
  have unreported (path : Path) (failed : atHome files.homes environment path = .error problem) :
      problem.reported = false := by
    grind [atHome, Problem.reported]
  exact and_iff_left_of_imp (unreported _)

/-- A profile cannot be read, and nobody expects it. -/
inductive Misused (files : FileStore) (path : Path) : Option Yaml.Value → Problem → Prop where
  /-- A profile is named, and the path is one that no file can have. -/
  | path {name : Yaml.Value} {error : SystemError} (refused : files.read path = .error error)
      (impossible : error.fault.fromSystem = false) :
      Misused files path (some name) (.unusablePath error)
  /-- Nobody names a profile, and the path is too long to be looked up. -/
  | lookup {error : SystemError} (long : files.checkFile path = .error error) :
      Misused files path none (.unusablePath error)
  /-- The file is not UTF-8, and no line before the place where this shows ends the reading. -/
  | encoding {name : Option Yaml.Value} {before : String}
      (used : name = none → files.checkFile path = .ok true)
      (undecoded : files.readText path = .error (.encoding before))
      (sound : Profiles.faultBefore? before = none) : Misused files path name .encoding
  /-- A collection stands where a profile is named, or an integer that messages do not show. -/
  | name {name : Yaml.Value} {profiles : Profiles} {fault : Yaml.Value.KeyFault}
      (read : readProfiles files path = .ok profiles) (unnameable : name.literal = .error fault) :
      Misused files path (some name) (.unusableProfile fault)

theorem readText_eq_system_iff {error : SystemError} :
    files.readText path = .error (.system error) ↔ files.read path = .error error := by
  rw [FileStore.readText]
  cases files.read path with
  | error other => simp
  | ok contents => simp [except_mapError_eq_error_iff]

theorem breaks_readProfiles_iff :
    Breaks (readProfiles files path) problem ↔
      (∃ error, files.read path = .error error ∧ error.fault.fromSystem = false ∧
        problem = .unusablePath error) ∨
      ∃ before, files.readText path = .error (.encoding before) ∧
        Profiles.faultBefore? before = none ∧ problem = .encoding := by
  constructor
  · rintro ⟨failed, unreported⟩
    rw [readProfiles] at failed
    split at failed
    · rename_i error refused
      split at failed
      · cases failed
        cases unreported
      · rename_i impossible
        cases failed
        exact .inl ⟨error, readText_eq_system_iff.1 refused, Bool.eq_false_iff.2 impossible, rfl⟩
    · rename_i before undecoded
      split at failed
      · cases failed
        cases unreported
      · rename_i sound
        cases failed
        exact .inr ⟨before, undecoded, sound, rfl⟩
    · split at failed
      · cases failed
        cases unreported
      · cases failed
  · rintro (⟨error, refused, impossible, rfl⟩ | ⟨before, undecoded, sound, rfl⟩)
    · refine ⟨?_, rfl⟩
      rw [readProfiles, readText_eq_system_iff.2 refused]
      simp only [impossible, Bool.false_eq_true, if_false]
    · refine ⟨?_, rfl⟩
      rw [readProfiles, undecoded]
      simp only [sound]

theorem breaks_readProfile_iff {name : Yaml.Value} :
    Breaks (readProfile files path name) problem ↔
      Breaks (readProfiles files path) problem ∨
        ∃ profiles fault, readProfiles files path = .ok profiles ∧ name.literal = .error fault ∧
          problem = .unusableProfile fault := by
  rw [readProfile, breaks_bind_iff]
  refine or_congr_right (exists_congr fun profiles => ?_)
  simp only [exists_and_left]
  refine and_congr_right fun _ => ?_
  constructor
  · rintro ⟨failed, unreported⟩
    split at failed
    · split at failed
      · cases failed
      · cases failed
        cases unreported
    · cases failed
      cases unreported
    · rename_i unnameable
      cases failed
      exact ⟨_, unnameable, rfl⟩
  · rintro ⟨fault, unnameable, rfl⟩
    refine ⟨?_, rfl⟩
    split
    · cases unnameable
    · rename_i shown
      cases unnameable.symm.trans shown
    · rename_i other
      cases unnameable.symm.trans other
      rfl

/-- The section with the options that hold in all sections is always there. -/
theorem breaks_readDefault_iff (settings : Settings) :
    Breaks (do
      let profile ← readProfile files path (.str Profiles.defaultSection)
      return profile.settings.withOver settings) problem ↔
      Breaks (readProfiles files path) problem := by
  rw [breaks_bind_iff, breaks_readProfile_iff]
  constructor
  · rintro ((broken | ⟨_, _, _, ⟨⟩, _⟩) | ⟨_, _, ⟨⟩, _⟩)
    exact broken
  · exact fun broken => .inl (.inl broken)

/-- A file that is there can be read. -/
theorem exists_read_of_checkFile (there : files.checkFile path = .ok true) :
    ∃ contents, files.read path = .ok contents := by
  have held : files.isFile path = true := by
    rw [FileStore.checkFile] at there
    split at there
    · cases there
    · exact Except.ok.inj there
  rw [FileStore.isFile, FileStore.at?] at held
  cases leads : files.resolve path with
  | error fault => simp [leads] at held
  | ok location =>
      simp only [leads] at held
      split at held
      · rename_i contents found
        exact ⟨contents, FileStore.read_eq_ok_iff.2 ⟨location, leads, found⟩⟩
      · cases held

theorem breaks_profiledSettings_some_iff {name : Yaml.Value} {settings : Settings} :
    Breaks (profiledSettings files (some name) path settings) problem ↔
      Breaks (readProfile files path name) problem := by
  rw [profiledSettings, breaks_bind_iff]
  exact or_iff_left fun ⟨_, _, broken⟩ => not_breaks_pure broken

theorem breaks_profiledSettings_none_iff {settings : Settings} :
    Breaks (profiledSettings files none path settings) problem ↔
      (∃ error, files.checkFile path = .error error ∧ problem = .unusablePath error) ∨
        files.checkFile path = .ok true ∧ Breaks (readProfiles files path) problem := by
  rw [profiledSettings, breaks_bind_iff]
  refine or_congr ?_ ?_
  · rw [Breaks, except_mapError_eq_error_iff]
    constructor
    · rintro ⟨⟨error, long, rfl⟩, -⟩
      exact ⟨error, long, rfl⟩
    · rintro ⟨error, long, rfl⟩
      exact ⟨⟨error, long, rfl⟩, rfl⟩
  · simp only [except_mapError_eq_ok_iff]
    constructor
    · rintro ⟨there, checked, broken⟩
      cases there with
      | true => exact ⟨checked, (breaks_readDefault_iff settings).1 broken⟩
      | false => exact absurd broken not_breaks_pure
    · rintro ⟨there, broken⟩
      exact ⟨true, there, (breaks_readDefault_iff settings).2 broken⟩

theorem breaks_profiledSettings_iff {name : Option Yaml.Value} {settings : Settings} :
    Breaks (profiledSettings files name path settings) problem ↔
      Misused files path name problem := by
  cases name with
  | some name =>
      rw [breaks_profiledSettings_some_iff, breaks_readProfile_iff, breaks_readProfiles_iff]
      constructor
      · rintro ((⟨_, refused, impossible, rfl⟩ | ⟨_, undecoded, sound, rfl⟩) |
          ⟨_, _, read, unnameable, rfl⟩)
        · exact .path refused impossible
        · exact .encoding nofun undecoded sound
        · exact .name read unnameable
      · intro misused
        cases misused with
        | path refused impossible => exact .inl (.inl ⟨_, refused, impossible, rfl⟩)
        | encoding _ undecoded sound => exact .inl (.inr ⟨_, undecoded, sound, rfl⟩)
        | name read unnameable => exact .inr ⟨_, _, read, unnameable, rfl⟩
  | none =>
      rw [breaks_profiledSettings_none_iff, breaks_readProfiles_iff]
      constructor
      · rintro (⟨_, long, rfl⟩ | ⟨there, ⟨_, refused, _⟩ | ⟨_, undecoded, sound, rfl⟩⟩)
        · exact .lookup long
        · obtain ⟨_, read⟩ := exists_read_of_checkFile there
          cases refused.symm.trans read
        · exact .encoding (fun _ => there) undecoded sound
      · intro misused
        cases misused with
        | lookup long => exact .inl ⟨_, long, rfl⟩
        | encoding there undecoded sound =>
            exact .inr ⟨there rfl, .inr ⟨_, undecoded, sound, rfl⟩⟩

/-! ## Placeholders and settings -/

theorem reported_of_expandChars {chars : List Char}
    (failed : expandChars environment chars = .error problem) : problem.reported = true := by
  fun_induction expandChars environment chars with
  | case1 chars name after found _ unset =>
      cases failed
      rfl
  | case2 chars name after found _ value set ih =>
      exact ih (except_map_eq_error_iff.1 failed)
  | case3 => cases failed
  | case4 c rest none ih => exact ih (except_map_eq_error_iff.1 failed)

/-- A variable that is not set is the only problem with placeholders. -/
theorem not_breaks_expandSettings {settings : Settings} :
    ¬ Breaks (expandSettings environment settings) problem := by
  have expands (setting : Option Scalar) :
      ¬ Breaks (expandSetting environment setting) problem := by
    refine not_breaks fun problem failed => ?_
    cases setting with
    | none => cases failed
    | some setting =>
        cases setting with
        | text text =>
            exact reported_of_expandChars
              (except_map_eq_error_iff.1 (except_map_eq_error_iff.1 failed))
        | _ => cases failed
  rw [expandSettings, breaks_bind_iff]
  rintro (host | ⟨_, _, later⟩)
  · exact expands _ host
  · rcases breaks_bind_iff.1 later with token | ⟨_, _, ⟨⟩, _⟩
    exact expands _ token

/-! ## Loading -/

/-- The ways in which loading the configuration ends the program. -/
inductive Escapes (reader : Yaml.FileReader) (environment given : Variables) (wanted : Wanted)
    (files : FileStore) : Problem → Prop where
  | search {problem : Problem} (unasked : wanted.path = none)
      (stops : Unsearchable environment files problem) :
      Escapes reader environment given wanted files problem
  | file {path : Path} {problem : Problem} (located : Located environment files wanted.path path)
      (misread : Misread reader files path problem) :
      Escapes reader environment given wanted files problem
  /-- The profile file is looked for in a home directory that is not known. -/
  | home {entries : Entries} {problem : Problem}
      (configured : Configured reader environment files wanted.path entries)
      (homeless : profilePath files.homes environment given = .error problem) :
      Escapes reader environment given wanted files problem
  | named {entries : Entries} {path : Path} {name : Yaml.Value} {problem : Problem}
      (configured : Configured reader environment files wanted.path entries)
      (located : profilePath files.homes environment given = .ok path)
      (named : Names wanted entries given name)
      (misused : Misused files path (some name) problem) :
      Escapes reader environment given wanted files problem
  | unnamed {entries : Entries} {path : Path} {problem : Problem}
      (configured : Configured reader environment files wanted.path entries)
      (located : profilePath files.homes environment given = .ok path)
      (unnamed : ∀ name, ¬ Names wanted entries given name)
      (misused : Misused files path none problem) :
      Escapes reader environment given wanted files problem

/-- A step of loading breaks exactly in one of these ways. -/
theorem breaks_loaded_iff :
    Breaks (loaded reader environment given wanted files) problem ↔
      Escapes reader environment given wanted files problem := by
  have valid (settings : Settings) :
      ¬ Breaks ((ofSettings settings).mapError .invalid) problem := by
    refine not_breaks fun problem failed => ?_
    obtain ⟨issues, _, rfl⟩ := except_mapError_eq_error_iff.1 failed
    rfl
  simp only [loaded, breaks_bind_iff, breaks_fileEntries_iff, breaks_profilePath_iff,
    breaks_profiledSettings_iff, not_breaks_expandSettings, valid, fileEntries_eq_ok_iff, and_false,
    exists_false, or_false]
  constructor
  · rintro ((⟨unasked, stops⟩ | ⟨_, located, misread⟩) |
      ⟨entries, configured, homeless | ⟨_, located, misused⟩⟩)
    · exact .search unasked stops
    · exact .file located misread
    · exact .home configured homeless
    · cases called : profileName? wanted entries given with
      | some name =>
          exact .named configured located (profileName?_eq_some_iff.1 called) (called ▸ misused)
      | none =>
          exact .unnamed configured located (profileName?_eq_none_iff.1 called) (called ▸ misused)
  · intro escapes
    cases escapes with
    | search unasked stops => exact .inl (.inl ⟨unasked, stops⟩)
    | file located misread => exact .inl (.inr ⟨_, located, misread⟩)
    | home configured homeless => exact .inr ⟨_, configured, .inl homeless⟩
    | named configured located named misused =>
        rw [← profileName?_eq_some_iff.2 named] at misused
        exact .inr ⟨_, configured, .inr ⟨_, located, misused⟩⟩
    | unnamed configured located unnamed misused =>
        rw [← profileName?_eq_none_iff.2 unnamed] at misused
        exact .inr ⟨_, configured, .inr ⟨_, located, misused⟩⟩

/-- **How loading the configuration ends the program.**  With any reader of the configuration file,
loading gives a configuration or fails in good order, unless the sources hold what is not
expected. -/
theorem load_escapes_iff {failure : Failure} :
    (loadWith reader environment given wanted files).result = .error failure ∧
        failure.reported = false ↔
      ∃ problem, failure = .configuration problem ∧
        Escapes reader environment given wanted files problem := by
  rw [(settles_loadWith reader environment given wanted files).result, except_mapError_eq_error_iff]
  constructor
  · rintro ⟨⟨problem, failed, rfl⟩, unreported⟩
    exact ⟨problem, rfl, breaks_loaded_iff.1 ⟨failed, unreported⟩⟩
  · rintro ⟨problem, rfl, escapes⟩
    obtain ⟨failed, unreported⟩ := breaks_loaded_iff.2 escapes
    exact ⟨⟨problem, failed, rfl⟩, unreported⟩

/-- Loading in a home directory with a configuration file and a profile file. -/
def loadAtHome (contents profiles : List UInt8) : Except Failure Configuration :=
  (load [("HOME", "/home")] [] ⟨some "/c.yaml", none, Settings.none⟩
    { entries := [(["c.yaml"], .file contents), (["home"], .directory),
        (["home", ".databrickscfg"], .file profiles)]
      workingDirectory := [] }).result

/-- Ways to end the program that need no unusual path or surroundings: a configuration file that is
not UTF-8, one with a day that there is not, one with a mapping in place of a date, one with a list
in place of a profile, and a profile file that is not UTF-8. -/
theorem load_ends_program :
    loadAtHome [0xff] [] = .error (.configuration (.unforeseen .undecodable)) ∧
      loadAtHome "timeout: 2024-02-30".toUTF8.toList [] =
        .error (.configuration (.unforeseen (.badDate "day is out of range for month"))) ∧
      loadAtHome "x: !!timestamp \x7b=: 2024-01-01\x7d".toUTF8.toList [] =
        .error (.configuration (.unforeseen .mappingAsDate)) ∧
      loadAtHome "profile: [a]".toUTF8.toList [] =
        .error (.configuration (.unusableProfile (.collection "list"))) ∧
      loadAtHome [] [0xff] = .error (.configuration .encoding) ∧
      ∀ problem ∈ [.unforeseen .undecodable,
        .unforeseen (.badDate "day is out of range for month"), .unforeseen .mappingAsDate,
        .unusableProfile (.collection "list"), .encoding],
          (Failure.configuration problem).reported = false := by
  decide +kernel

end DashboardExport.Configuration
