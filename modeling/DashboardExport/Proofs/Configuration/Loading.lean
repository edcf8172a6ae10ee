import DashboardExport.Configuration.Loading
import DashboardExport.Proofs.Fallible

/-!
# Loading as a computation

Loading the configuration looks at the files and leaves them as they are.  Apart from what it
tells, it is a computation on the files (`loaded`) that gives a configuration or meets a
problem with one of the sources, whatever the reader of the configuration file is
(`settles_loadWith`).
-/

set_option autoImplicit false

namespace DashboardExport

namespace Session

variable {σ α β : Type} {s : σ}

/-- A session that leaves its state as it is and ends as a computation does. -/
structure Settles (session : Session σ α) (s : σ) (result : Except Failure α) : Prop where
  state : (session s).state = s
  result : (session s).result = result

theorem settles_done (value : α) : Settles (Session.done value) s (.ok value) := ⟨rfl, rfl⟩

theorem settles_ofExcept (result : Except Failure α) : Settles (Session.ofExcept result) s result :=
  ⟨rfl, rfl⟩

/-- A session in steps ends as its steps do, one after the other. -/
theorem Settles.bind {first : Session σ α} {next : α → Session σ β} {result : Except Failure α}
    {results : α → Except Failure β} (here : Settles first s result)
    (later : ∀ value, Settles (next value) s (results value)) :
    Settles (first >>= next) s (result >>= results) := by
  obtain ⟨stays, ends⟩ := here
  rcases started : first s with ⟨middle, events, failure | value⟩
  · rw [started] at stays ends
    subst ends
    exact ⟨by rw [bind_of_error started]; exact stays, by rw [bind_of_error started]; rfl⟩
  · rw [started] at stays ends
    subst stays ends
    exact ⟨by rw [bind_of_ok started]; exact (later value).state,
      by rw [bind_of_ok started]; exact (later value).result⟩

/-- A step that looks at the state. -/
theorem settles_state_bind {next : σ → Session σ β} {result : Except Failure β}
    (later : Settles (next s) s result) : Settles (Session.state >>= next) s result :=
  ⟨later.state, later.result⟩

/-- What is told does not matter. -/
theorem settles_tell_bind {event : Event} {next : Unit → Session σ β} {result : Except Failure β}
    (later : Settles (next ()) s result) : Settles (Session.tell event >>= next) s result :=
  ⟨later.state, later.result⟩

end Session

namespace Configuration

open Session (Settles)
open Storage

variable {reader : Yaml.FileReader} {environment given : Variables} {files : FileStore}

/-- The entries of a configuration file. -/
abbrev Entries := List (Yaml.Value × Yaml.Value)

/-- The entries of the configuration file: the one that is asked for, or else the one that is found,
if there is one. -/
def fileEntries (reader : Yaml.FileReader) (environment : Variables) (files : FileStore) :
    Option String → Except Problem Entries
  | some text => readMapping reader files (Path.ofText text)
  | none => do
    match ← findFile environment files with
    | none => return []
    | some path => readMapping reader files (Path.ofText path.text)

/-- The settings of the configuration file with those of the profile. -/
def profiledSettings (files : FileStore) (name : Option Yaml.Value) (path : Path)
    (settings : Settings) : Except Problem Settings :=
  match name with
  | some name => do
    let profile ← readProfile files path name
    return settings.withOver profile.settings
  | none => do
    let there ← (files.checkFile path).mapError .unusablePath
    if there then
      let profile ← readProfile files path (.str Profiles.defaultSection)
      return profile.settings.withOver settings
    else return settings

/-- The configuration that the files and the other sources give. -/
def loaded (reader : Yaml.FileReader) (environment given : Variables) (wanted : Wanted)
    (files : FileStore) : Except Problem Configuration := do
  let entries ← fileEntries reader environment files wanted.path
  let path ← profilePath files.homes environment given
  let settings ← profiledSettings files (profileName? wanted entries given) path
    (settingsOf entries)
  let chosen := (settings.withOver (environmentSettings given)).withOver
    wanted.overrides.withoutNulls
  let expanded ← expandSettings environment chosen
  (ofSettings expanded).mapError .invalid

/-! ## Loading -/

theorem settles_attempt {α : Type} (result : Except Problem α) :
    Settles (attempt result) files (result.mapError .configuration) :=
  Session.settles_ofExcept _

theorem mapError_bind {ε δ α β : Type} (first : Except ε α) (next : α → Except ε β)
    (change : ε → δ) : (first >>= next).mapError change =
      first.mapError change >>= fun value => (next value).mapError change := by
  cases first with
  | error failure => rfl
  | ok value => rfl

/-- Two steps that settle, one after the other. -/
theorem problem_bind {α β : Type} {first : Session FileStore α}
    {next : α → Session FileStore β} {result : Except Problem α} {results : α → Except Problem β}
    (here : Settles first files (result.mapError .configuration))
    (later : ∀ value, Settles (next value) files ((results value).mapError .configuration)) :
    Settles (first >>= next) files ((result >>= results).mapError .configuration) := by
  rw [mapError_bind]
  exact here.bind later

/-- A file that is read is told of. -/
theorem settles_readEntries (files : FileStore) (text : String) :
    Settles (do
      let entries ← attempt (readMapping reader files (Path.ofText text))
      Session.tell (.configured text)
      Session.done entries) files
      ((readMapping reader files (Path.ofText text)).mapError .configuration) := by
  have settles : Settles (do
      let entries ← attempt (readMapping reader files (Path.ofText text))
      Session.tell (.configured text)
      Session.done entries) files
      ((readMapping reader files (Path.ofText text) >>= pure).mapError .configuration) :=
    problem_bind (settles_attempt _) fun entries =>
      Session.settles_tell_bind (Session.settles_done entries)
  rwa [bind_pure] at settles

theorem settles_loadEntries (environment : Variables) (files : FileStore) (asked : Option String) :
    Settles (loadEntries reader environment asked) files
      ((fileEntries reader environment files asked).mapError .configuration) := by
  refine Session.settles_state_bind ?_
  cases asked with
  | some text => exact settles_readEntries files text
  | none =>
      refine problem_bind (settles_attempt _) fun found => ?_
      cases found with
      | none => exact Session.settles_done _
      | some path => exact settles_readEntries files path.text

theorem settles_withProfile (files : FileStore) (name : Option Yaml.Value) (path : Path)
    (settings : Settings) :
    Settles (withProfile name path settings) files
      ((profiledSettings files name path settings).mapError .configuration) := by
  refine Session.settles_state_bind ?_
  cases name with
  | some name =>
      exact problem_bind (settles_attempt _) fun profile =>
        Session.settles_tell_bind (Session.settles_done _)
  | none =>
      refine problem_bind (settles_attempt _) fun there => ?_
      cases there with
      | true => exact problem_bind (settles_attempt _) fun profile => Session.settles_done _
      | false => exact Session.settles_done _

/-- **Loading is a computation** that leaves the files as they are. -/
theorem settles_loadWith (reader : Yaml.FileReader) (environment given : Variables)
    (wanted : Wanted) (files : FileStore) :
    Settles (loadWith reader environment given wanted) files
      ((loaded reader environment given wanted files).mapError .configuration) :=
  Session.settles_state_bind <|
    problem_bind (settles_loadEntries environment files wanted.path) fun _ =>
      problem_bind (settles_attempt _) fun path =>
        problem_bind (settles_withProfile files _ path _) fun _ =>
          problem_bind (settles_attempt _) fun _ => settles_attempt _

end Configuration

end DashboardExport
