import DashboardExport.Export
import DashboardExport.Proofs.Export.Files
import DashboardExport.Proofs.Inventory.Owners

/-!
# Runs that succeed

A run is made with a fetcher that is at hand, or with a client that it opens (`Source`).
Either way it succeeds exactly when the mode names a kind, there is a fetcher, everything
is loaded, and everything is written (`Source.gives_run_iff`).

What is loaded then is the inventory that the load calls for the roots reach
(`eq_reached_of_gives`), so whatever holds of reached inventories holds of it.
-/

set_option autoImplicit false

namespace DashboardExport

open Service Storage

/-! ## Loading -/

namespace Inventory

variable {fetcher : Fetcher} {kind : RemoteKind}

/-- The calls that load objects of a kind, in order. -/
def callsFor (fetcher : Fetcher) (kind : RemoteKind) (ids : List String) : List LoadCall :=
  ids.map fun id => ⟨fetcher, kind, id⟩

theorem gives_loadAll_iff {ids : List String} {before after : Inventory} {value : Unit} :
    (loadAll fetcher kind ids).Gives before after value ↔
      (loadEach fetcher kind ids).Gives before after () := by
  simp only [loadAll, Session.gives_bind_iff, Session.gives_state_iff, Session.gives_tell_iff]
  constructor
  · rintro ⟨_, _, loaded, _, _, ⟨rfl, _⟩, rfl⟩
    exact loaded
  · intro loaded
    exact ⟨after, (), loaded, after, after, ⟨rfl, rfl⟩, rfl⟩

/-- Loads that succeed leave what their calls lead to. -/
theorem eq_foldl_of_gives {ids : List String} {before after : Inventory}
    (loaded : (loadEach fetcher kind ids).Gives before after ()) :
    after = (callsFor fetcher kind ids).foldl afterCall before := by
  induction ids generalizing before with
  | nil => exact (Session.gives_done_iff.1 loaded).1
  | cons id rest ih =>
      obtain ⟨middle, _, first, others⟩ := Session.gives_bind_iff.1 loaded
      have same : before.afterCall ⟨fetcher, kind, id⟩ = middle := first.state
      rw [callsFor, List.map_cons, List.foldl_cons, same]
      exact ih others

/-- **What is loaded into the empty inventory is reached by the load calls.** -/
theorem eq_reached_of_gives {ids : List String} {inventory : Inventory}
    (loaded : (loadEach fetcher kind ids).Gives empty inventory ()) :
    inventory = reached (callsFor fetcher kind ids) :=
  eq_foldl_of_gives loaded

theorem loadEach_append (ids more : List String) :
    loadEach fetcher kind (ids ++ more) =
      loadEach fetcher kind ids >>= fun _ => loadEach fetcher kind more := by
  induction ids with
  | nil => rw [List.nil_append, loadEach, Session.done_bind]
  | cons id rest ih => rw [List.cons_append, loadEach, loadEach, ih, bind_assoc]

theorem callsFor_echo (echoes : fetcher.Echoes) (ids : List String) :
    ∀ call ∈ callsFor fetcher kind ids, call.fetcher.Echoes := by
  intro call member
  obtain ⟨_, _, rfl⟩ := List.mem_map.1 member
  exact echoes

end Inventory

/-! ## Writing -/

namespace Output

theorem gives_prepare_iff {directory : Path} {files after : FileStore} {value : Unit} :
    (prepare directory).Gives files after value ↔
      files.ensureDirectories directory = (after, none) := by
  rw [Session.gives_iff, prepare]
  rcases files.ensureDirectories directory with ⟨made, _ | error⟩
  · simp
  · simp

theorem gives_writeAll_iff {directory : Path} {skipDefaults : Bool} {inventory : Inventory}
    {files after : FileStore} {paths : List Path} :
    (writeAll directory skipDefaults inventory).Gives files after paths ↔
      ∃ made, files.ensureDirectories directory = (made, none) ∧
        (writeEach directory (ofInventory skipDefaults inventory)).Gives made after paths := by
  simp only [writeAll, Session.gives_bind_iff, gives_prepare_iff]
  constructor
  · rintro ⟨made, _, ready, written⟩
    exact ⟨made, ready, written⟩
  · rintro ⟨made, ready, written⟩
    exact ⟨made, (), ready, written⟩

end Output

/-! ## Runs -/

namespace Export

/-- Where a run gets its objects from. -/
inductive Source where
  /-- A fetcher that is at hand. -/
  | atHand (fetcher : Fetcher)
  /-- A client that the run opens. -/
  | online (transport : Transport)

namespace Source

/-- A run with a source. -/
def run : Source → Configuration → String → List String → Session FileStore (List Path)
  | .atHand fetcher => Export.run fetcher
  | .online transport => Export.runOnline transport

/-- The fetcher that a run with a source uses; there is none if no client can be opened. -/
def fetcher? (configuration : Configuration) : Source → Except Failure Fetcher
  | .atHand fetcher => .ok fetcher
  | .online transport =>
      ((Client.open? configuration.host (some configuration.token) transport).mapError
        .service).map Client.fetcher

/-- The session that getting the fetcher is. -/
def connect (configuration : Configuration) : Source → Session FileStore Fetcher
  | .atHand fetcher => Session.done fetcher
  | .online transport => do
      let client ← openClient transport configuration
      Session.done client.fetcher

variable {source : Source} {configuration : Configuration}

/-- **Runs differ in how they get their fetcher only.** -/
theorem run_eq (source : Source) (configuration : Configuration) (mode : String)
    (ids : List String) :
    source.run configuration mode ids = (do
      let kind ← Session.ofExcept (kindOfMode mode)
      let fetcher ← source.connect configuration
      exportFrom fetcher configuration kind ids) := by
  cases source with
  | atHand fetcher =>
      rw [run, Export.run]
      simp only [connect, Session.done_bind]
  | online transport =>
      rw [run, runOnline]
      simp only [connect, bind_assoc, Session.done_bind]

/-- What getting the fetcher tells. -/
def opening (configuration : Configuration) : Source → List Event
  | .atHand _ => []
  | .online _ => [.opened configuration.host (some configuration.token) configuration.timeout]

theorem connect_apply (source : Source) (configuration : Configuration) (files : FileStore) :
    source.connect configuration files =
      ⟨files, source.opening configuration, source.fetcher? configuration⟩ := by
  cases source with
  | atHand fetcher => rfl
  | online transport =>
      rw [connect, openClient, fetcher?]
      generalize (Client.open? configuration.host (some configuration.token) transport).mapError
        Failure.service = opened
      cases opened with
      | error failure => rfl
      | ok client => rfl

/-- Getting the fetcher leaves the files as they are. -/
theorem connect_ends (source : Source) (configuration : Configuration) (files : FileStore) :
    ∃ events, source.connect configuration files =
      ⟨files, events, source.fetcher? configuration⟩ :=
  ⟨_, source.connect_apply configuration files⟩

theorem gives_connect_iff {files after : FileStore} {fetcher : Fetcher} :
    (source.connect configuration).Gives files after fetcher ↔
      after = files ∧ source.fetcher? configuration = .ok fetcher := by
  obtain ⟨events, ended⟩ := connect_ends source configuration files
  rw [Session.gives_iff, ended, eq_comm]

/-- **When a run succeeds.** -/
theorem gives_run_iff {mode : String} {ids : List String} {files after : FileStore}
    {paths : List Path} :
    (source.run configuration mode ids).Gives files after paths ↔
      ∃ kind fetcher inventory made, kindOfMode mode = .ok kind ∧
        source.fetcher? configuration = .ok fetcher ∧
        (Inventory.loadEach fetcher kind ids).Gives Inventory.empty inventory () ∧
        files.ensureDirectories configuration.outputDirectory = (made, none) ∧
        (Output.writeEach configuration.outputDirectory
          (Output.ofInventory configuration.skipTableDefaults inventory)).Gives made after
            paths := by
  simp only [run_eq, exportFrom, Session.gives_bind_iff, Session.gives_ofExcept_iff,
    gives_connect_iff, Session.gives_within_iff, Inventory.gives_loadAll_iff,
    Output.gives_writeAll_iff]
  constructor
  · rintro ⟨_, kind, ⟨rfl, named⟩, _, fetcher, ⟨rfl, connected⟩, _, ⟨inventory, _⟩,
      ⟨rfl, loaded⟩, made, ready, written⟩
    exact ⟨kind, fetcher, inventory, made, named, connected, loaded, ready, written⟩
  · rintro ⟨kind, fetcher, inventory, made, named, connected, loaded, ready, written⟩
    exact ⟨files, kind, ⟨rfl, named⟩, files, fetcher, ⟨rfl, connected⟩, files, (inventory, ()),
      ⟨rfl, loaded⟩, made, ready, written⟩

end Source

end Export

end DashboardExport
