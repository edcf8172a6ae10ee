import DashboardExport.Proofs.Export.Extension
import DashboardExport.Proofs.Inventory.Tokens
import DashboardExport.Proofs.Storage.Directories

/-!
# Where the files of an export are

The files of the outputs are entries of the output directory, each named after its object,
and nothing else in the store changes while they are written (`writtenAt_of_writeEach`).
Before that, directories may have been made on the way to the output directory.

The names of dashboards and queries are tokens, so no file name leads anywhere else; and
they are different within a kind, so no file is written twice.  Put together, an export
that succeeds leaves one file for every query and every dashboard, each with the text of
its object, and no other file is new or changed (`export_placed`).
-/

set_option autoImplicit false

namespace DashboardExport

open Service Storage

namespace Output

/-! ## Places -/

/-- The place of an output's file, where the directory is at a place. -/
def location (base : Location) (output : Output) : Location :=
  base ++ [fileName output.kind output.resourceName]

theorem location_eq_location_iff {base : Location} {output other : Output} :
    output.location base = other.location base ↔
      fileName output.kind output.resourceName = fileName other.kind other.resourceName := by
  rw [location, location, List.append_cancel_left_eq, List.cons.injEq, and_iff_left rfl]

variable {directory : Path} {base : Location} {output : Output} {outputs : List Output}
  {before after files : FileStore} {paths : List Path}

/-- A file of an output is at its place. -/
theorem eq_location_of_resolve (leads : files.resolve directory = .ok base) {place : Location}
    (resolved : files.resolve (output.path directory) = .ok place) :
    place = output.location base :=
  FileStore.eq_concat_of_resolve_child (fileName_ne_up _ _) leads resolved

/-! ## Writing -/

theorem directoriesStay_of_writeEach
    (written : (writeEach directory outputs).Gives files after paths) :
    FileStore.DirectoriesStay files after := by
  induction outputs generalizing files paths with
  | nil =>
      obtain ⟨rfl, _⟩ := Session.gives_done_iff.1 written
      exact .refl _
  | cons output rest ih =>
      obtain ⟨text, middle, _, _, saved, others, _⟩ := gives_writeEach_cons_iff.1 written
      exact saved.puts.directoriesStay.trans (ih others)

/-- **Writing outputs changes nothing but their files.** -/
theorem find?_of_writeEach (written : (writeEach directory outputs).Gives files after paths)
    (leads : files.resolve directory = .ok base) {place : Location}
    (elsewhere : ∀ output ∈ outputs, place ≠ output.location base) :
    after.find? place = files.find? place := by
  induction outputs generalizing files paths with
  | nil =>
      obtain ⟨rfl, _⟩ := Session.gives_done_iff.1 written
      rfl
  | cons output rest ih =>
      obtain ⟨text, middle, _, _, saved, others, _⟩ := gives_writeEach_cons_iff.1 written
      obtain ⟨own, resolved, _⟩ := id saved.puts
      have still := FileStore.resolve_of_directoriesStay saved.puts.directoriesStay leads
      rw [ih others still fun other member => elsewhere other (List.mem_cons_of_mem output member),
        saved.puts.find? resolved, if_neg]
      rw [eq_location_of_resolve leads resolved]
      exact elsewhere output List.mem_cons_self

/-- What outputs have left of a store: their files, which are entries of the directory, hold their
texts, and elsewhere the store is what it was. -/
structure WrittenAt (directory : Path) (base : Location) (outputs : List Output)
    (before after : FileStore) : Prop where
  leads : after.resolve directory = .ok base
  files : ∀ output ∈ outputs, after.resolve (output.path directory) = .ok (output.location base)
  holds : ∀ output ∈ outputs, Holds directory after output
  others : ∀ place, (∀ output ∈ outputs, place ≠ output.location base) →
    after.find? place = before.find? place

theorem writtenAt_of_writeEach (apart : outputs.Pairwise Apart)
    (leads : files.resolve directory = .ok base)
    (written : (writeEach directory outputs).Gives files after paths) :
    WrittenAt directory base outputs files after := by
  have still :=
    FileStore.resolve_of_directoriesStay (directoriesStay_of_writeEach written) leads
  have holds := (gives_writeEach apart written).2
  refine ⟨still, fun output member => ?_, holds, fun _ => find?_of_writeEach written leads⟩
  obtain ⟨text, _, stored⟩ := holds output member
  obtain ⟨place, resolved, _⟩ := FileStore.read_eq_ok_iff.1 stored
  rw [resolved, eq_location_of_resolve still resolved]

/-! ## File names -/

/-- The name of a file leads to an entry of the directory, if the name of the object is a token. -/
theorem not_mem_fileName {resourceName : String} (token : Naming.IsToken resourceName)
    (kind : RemoteKind) : '/' ∉ (fileName kind resourceName).toList := by
  have inName : '/' ∉ resourceName.toList := token.not_mem rfl
  cases kind with
  | dashboard => simpa [fileName, RemoteKind.noun] using inName
  | query => simpa [fileName, RemoteKind.noun] using inName

theorem fileName_ne_dot (kind : RemoteKind) (resourceName : String) :
    fileName kind resourceName ≠ "." := by
  intro same
  have kinds := isPrefixOf_fileName kind kind resourceName
  rw [same, beq_self_eq_true] at kinds
  cases kind <;> exact absurd kinds (by decide)

theorem token_of_mem_ofInventory {skipDefaults : Bool} {calls : List LoadCall} {output : Output}
    (member : output ∈ ofInventory skipDefaults (Inventory.reached calls)) :
    Naming.IsToken output.resourceName := by
  have tokens := ownerTokens_reached calls
  rcases List.mem_append.1 member with query | dashboard
  · obtain ⟨entry, inside, rfl⟩ := List.mem_map.1 query
    exact tokens.queries entry inside
  · obtain ⟨entry, inside, rfl⟩ := List.mem_map.1 dashboard
    exact tokens.dashboards entry inside

/-- Outputs whose files have different names have different paths. -/
theorem nodup_paths (apart : outputs.Pairwise Apart) (directory : Path) :
    (outputs.map (path directory)).Nodup := by
  refine List.pairwise_map.2 (apart.imp ?_)
  intro output other differ same
  have parts := congrArg Path.parts same
  rw [path, path, Path.child, Path.child, List.append_cancel_left_eq] at parts
  exact differ (List.cons.inj parts).1

end Output

/-! ## Exports -/

namespace Export

/-- The files of an export: where they are, what they hold, and what else there is. -/
structure Placed (directory : Path) (skipDefaults : Bool) (inventory : Inventory)
    (before after : FileStore) (paths : List Path) : Prop where
  /-- One path for every query, in order, and then one for every dashboard. -/
  paths_eq : paths =
    (inventory.queries.map fun query =>
      directory.child (Output.fileName .query query.resourceName)) ++
    inventory.dashboards.map fun dashboard =>
      directory.child (Output.fileName .dashboard dashboard.resourceName)
  distinct : paths.Nodup
  /-- Every file is an entry of the output directory. -/
  children : ∃ base, after.resolve directory = .ok base ∧
    after.find? base = some .directory ∧
    ∀ path ∈ paths, ∃ name, path = directory.child name ∧
      '/' ∉ name.toList ∧ name ≠ "." ∧ name ≠ ".." ∧
      after.resolve path = .ok (base ++ [name])
  queries : ∀ query ∈ inventory.queries, ∃ text,
    Rendering.renderQuery skipDefaults inventory query = .ok text ∧
      after.read (directory.child (Output.fileName .query query.resourceName)) =
        .ok text.toUTF8.toList
  dashboards : ∀ dashboard ∈ inventory.dashboards, ∃ text,
    Rendering.renderDashboard inventory dashboard = .ok text ∧
      after.read (directory.child (Output.fileName .dashboard dashboard.resourceName)) =
        .ok text.toUTF8.toList
  /-- Apart from the directories on the way to the output directory, nothing else is new, and
  nothing else has changed. -/
  others : ∀ place, (∀ path ∈ paths, after.resolve path ≠ .ok place) → before.KeptAt after place

section Runs

variable {source : Source} {configuration : Configuration} {mode : String} {ids : List String}
  {before after : FileStore} {paths : List Path}

/-- **No file is overwritten or misplaced.**  An export that succeeds has loaded an inventory, and
leaves the files of this inventory and no others. -/
theorem export_placed (exported : (source.run configuration mode ids).Gives before after paths) :
    ∃ kind fetcher inventory, kindOfMode mode = .ok kind ∧
      source.fetcher? configuration = .ok fetcher ∧
      (Inventory.loadAll fetcher kind ids).Gives Inventory.empty inventory () ∧
      Placed configuration.outputDirectory configuration.skipTableDefaults inventory before after
        paths := by
  obtain ⟨kind, fetcher, inventory, made, named, connected, loaded, ready, written⟩ :=
    Source.gives_run_iff.1 exported
  refine ⟨kind, fetcher, inventory, named, connected, Inventory.gives_loadAll_iff.2 loaded, ?_⟩
  obtain rfl := Inventory.eq_reached_of_gives loaded
  have ensured := FileStore.ensured_ensureDirectories before configuration.outputDirectory
  rw [ready] at ensured
  obtain ⟨base, leads, directory⟩ := FileStore.isDirectory_iff.1 (ensured.directory rfl)
  have apart := Output.apart_ofInventory configuration.skipTableDefaults
    (Inventory.callsFor fetcher kind ids)
  have placed := Output.writtenAt_of_writeEach apart leads written
  have stay := Output.directoriesStay_of_writeEach written
  obtain ⟨rfl, hold⟩ := Output.gives_writeEach apart written
  refine
    { paths_eq := ?_
      distinct := Output.nodup_paths apart _
      children := ⟨base, placed.leads, stay.stay base directory, ?_⟩
      queries := ?_
      dashboards := ?_
      others := ?_ }
  · rw [Output.ofInventory, List.map_append, List.map_map, List.map_map]
    rfl
  · intro path member
    obtain ⟨output, inside, rfl⟩ := List.mem_map.1 member
    have token := Output.token_of_mem_ofInventory inside
    exact ⟨_, rfl, Output.not_mem_fileName token _, Output.fileName_ne_dot _ _,
      Output.fileName_ne_up _ _, placed.files output inside⟩
  · intro query member
    exact hold _ (List.mem_append_left _ (List.mem_map_of_mem member))
  · intro dashboard member
    exact hold _ (List.mem_append_right _ (List.mem_map_of_mem member))
  · intro place elsewhere
    have same : after.find? place = made.find? place := by
      refine placed.others place fun output inside here => ?_
      refine elsewhere _ (List.mem_map_of_mem inside) ?_
      rw [placed.files output inside, here]
    have kept := ensured.way.keptAt place
    rw [FileStore.KeptAt, same]
    exact kept

end Runs

/-- Two dashboards whose names differ only in signs that do not go into a name, and a third one
that is called what the second one is renamed to. -/
def slashedDashboards : List Dashboard :=
  [{ id := "a", name := "../KPIs", tags := [], widgets := [showingPayload 11 "q"] },
    { id := "b", name := "..(/)KPIs", tags := [], widgets := [] },
    { id := "c", name := "___kpis_1", tags := [], widgets := [showingPayload 11 "r"] }]

/-- An export of all three, into a directory that is made for it. -/
def slashedRun : Session FileStore (List Path) :=
  (Source.atHand (servingFetcher slashedDashboards sharedQueries)).run twinConfiguration
    "dashboard" ["a", "b", "c"]

theorem export_placed_slashed :
    ∃ after paths, slashedRun.Gives noFiles after paths ∧
      paths = twinPaths ["query_q.tf", "query_r.tf", "dashboard____kpis.tf",
        "dashboard____kpis_1.tf", "dashboard____kpis_1_1.tf"] ∧
      after.find? ["out"] = some .directory ∧
      ∃ kind fetcher inventory, kindOfMode "dashboard" = .ok kind ∧
        (Source.atHand (servingFetcher slashedDashboards sharedQueries)).fetcher?
          twinConfiguration = .ok fetcher ∧
        (Inventory.loadAll fetcher kind ["a", "b", "c"]).Gives Inventory.empty inventory () ∧
        Placed twinConfiguration.outputDirectory true inventory noFiles after paths := by
  have exported : slashedRun.Gives noFiles (slashedRun noFiles).state
      (twinPaths ["query_q.tf", "query_r.tf", "dashboard____kpis.tf",
        "dashboard____kpis_1.tf", "dashboard____kpis_1_1.tf"]) :=
    Session.gives_iff.2 ⟨rfl, by decide +kernel⟩
  exact ⟨_, _, exported, rfl, by decide +kernel, export_placed exported⟩

end Export

end DashboardExport
