import DashboardExport.Proofs.Export.Runs
import DashboardExport.Proofs.Inventory.Failures
import DashboardExport.Proofs.Inventory.ResourceNames
import DashboardExport.Proofs.Rendering.Files

/-!
# Exporting more

A run with more roots first loads what the run with fewer roots loads, and then goes on
(`loadEach_append`).  Its inventory extends the other one, and neither the names, nor what
belongs to an object, nor what a widget shows change on the way.  So every file of the
smaller export is a file of the larger one, with the same text (`ofInventory_subset`), and
the paths of each kind begin with those of the smaller export (`export_more`).
-/

set_option autoImplicit false

namespace DashboardExport

open Service Storage

/-! ## Texts -/

namespace Rendering

section Extension

variable {first second : Inventory}

/-- What was found in an inventory is found in one that extends it. -/
theorem findVisualization_of_extends (extension : first.Extends second) {id : String}
    {shown : Entry Visualization} (found : first.findVisualization id = some shown) :
    second.findVisualization id = some shown := by
  obtain ⟨later, same⟩ := extension.visualizations
  rw [Inventory.findVisualization, ← same, List.find?_append]
  rw [Inventory.findVisualization] at found
  rw [found, Option.some_or]

/-- A widget that has its item in an inventory has the same one in a larger inventory. -/
theorem widgetItem_of_extends (extension : first.Extends second) {dashboard : Entry Dashboard}
    {widget : Entry Widget} {item : Hcl.Item}
    (made : widgetItem first dashboard widget = .ok item) :
    widgetItem second dashboard widget = .ok item := by
  obtain ⟨content, mappings, shows, done, rfl⟩ := widgetItem_eq_ok_iff.1 made
  refine widgetItem_eq_ok_iff.2 ⟨content, mappings, contentItem_eq_ok_iff.2 ?_, done, rfl⟩
  rcases contentItem_eq_ok_iff.1 shows with text | ⟨id, shown, link, found, same⟩
  · exact .inl text
  · exact .inr ⟨id, shown, link, findVisualization_of_extends extension found, same⟩

theorem renderDashboard_of_extends (extension : first.Extends second)
    {dashboard : Entry Dashboard}
    (widgets : first.widgetsFor dashboard = second.widgetsFor dashboard) {file : String}
    (rendered : renderDashboard first dashboard = .ok file) :
    renderDashboard second dashboard = .ok file := by
  obtain ⟨items, made, rfl⟩ := renderDashboard_eq_ok_iff.1 rendered
  refine renderDashboard_eq_ok_iff.2 ⟨items, mapM_eq_ok_iff.2 ?_, rfl⟩
  rw [← widgets]
  exact (mapM_eq_ok_iff.1 made).imp fun _ _ => widgetItem_of_extends extension

/-- The text of a query depends on its own visualizations only. -/
theorem renderQuery_congr {skipDefaults : Bool} {query : Entry Query}
    (visualizations : first.visualizationsFor query = second.visualizationsFor query) :
    renderQuery skipDefaults first query = renderQuery skipDefaults second query := by
  rw [renderQuery, renderQuery, queryItems, queryItems, visualizations]

end Extension

end Rendering

/-! ## Outputs -/

namespace Output

variable {calls more : List LoadCall}

/-- **Outputs that have a text stay as they are when the inventory is extended.** -/
theorem ofInventory_subset (echoes : ∀ call ∈ calls, call.fetcher.Echoes)
    (echoes' : ∀ call ∈ more, call.fetcher.Echoes)
    (extension : (Inventory.reached calls).Extends (Inventory.reached more))
    {skipDefaults : Bool} {output : Output} {text : String} (rendered : output.text = .ok text)
    (member : output ∈ ofInventory skipDefaults (Inventory.reached calls)) :
    output ∈ ofInventory skipDefaults (Inventory.reached more) := by
  rcases List.mem_append.1 member with query | dashboard
  · obtain ⟨entry, inside, rfl⟩ := List.mem_map.1 query
    have inside' := extension.queries.subset inside
    have found : (Inventory.reached calls).visualizationsFor entry =
        (Inventory.reached more).visualizationsFor entry :=
      Except.ok.inj ((visualizationEntries_visualizationsFor echoes inside).symm.trans
        (visualizationEntries_visualizationsFor echoes' inside'))
    rw [Rendering.renderQuery_congr found]
    exact List.mem_append_left _ (List.mem_map.2 ⟨entry, inside', rfl⟩)
  · obtain ⟨entry, inside, rfl⟩ := List.mem_map.1 dashboard
    have inside' := extension.dashboards.subset inside
    have found : (Inventory.reached calls).widgetsFor entry =
        (Inventory.reached more).widgetsFor entry :=
      Except.ok.inj ((widgetEntries_widgetsFor echoes inside).symm.trans
        (widgetEntries_widgetsFor echoes' inside'))
    have rendered' := Rendering.renderDashboard_of_extends extension found rendered
    refine List.mem_append_right _ (List.mem_map.2 ⟨entry, inside', ?_⟩)
    rw [rendered', ← rendered]

/-- The files of a reached inventory have different names. -/
theorem apart_ofInventory (skipDefaults : Bool) (calls : List LoadCall) :
    (ofInventory skipDefaults (Inventory.reached calls)).Pairwise Apart := by
  have names := ownersApart_reached calls
  refine List.pairwise_append.2 ⟨?_, ?_, ?_⟩
  · refine List.pairwise_map.2 ((List.pairwise_map.1 names.queries).imp ?_)
    intro _ _ differ same
    exact differ (fileName_eq_fileName_iff.1 same).2
  · refine List.pairwise_map.2 ((List.pairwise_map.1 names.dashboards).imp ?_)
    intro _ _ differ same
    exact differ (fileName_eq_fileName_iff.1 same).2
  · intro query inQueries dashboard inDashboards same
    obtain ⟨_, _, rfl⟩ := List.mem_map.1 inQueries
    obtain ⟨_, _, rfl⟩ := List.mem_map.1 inDashboards
    cases (fileName_eq_fileName_iff.1 same).1

end Output

/-- The resource names of the objects of a kind. -/
def Inventory.namesOf (inventory : Inventory) : RemoteKind → List String
  | .dashboard => inventory.dashboards.map Entry.resourceName
  | .query => inventory.queries.map Entry.resourceName

theorem Inventory.Extends.namesOf {first second : Inventory} (extension : first.Extends second)
    (kind : RemoteKind) : first.namesOf kind <+: second.namesOf kind := by
  cases kind with
  | dashboard => exact extension.dashboards.map Entry.resourceName
  | query => exact extension.queries.map Entry.resourceName

/-- The paths of a kind are named after the objects of that kind, in order. -/
theorem Output.filter_isFileOf_ofInventory (kind : RemoteKind) (directory : Path)
    (skipDefaults : Bool) (inventory : Inventory) :
    ((ofInventory skipDefaults inventory).map (path directory)).filter (isFileOf kind) =
      (inventory.namesOf kind).map fun name => directory.child (fileName kind name) := by
  rw [filter_isFileOf_paths, ofInventory, List.filter_append, List.filter_map, List.filter_map]
  cases kind with
  | dashboard => simp [Inventory.namesOf, Function.comp_def, path]
  | query => simp [Inventory.namesOf, Function.comp_def, path]

namespace Export

section Runs

variable {source : Source} {configuration : Configuration} {mode : String}
  {files after files' after' : FileStore} {paths paths' : List Path}

/-- **Exporting more never disturbs what was exported.**  Let a service echo ids, and let the same
run succeed with some roots and with more roots behind them, whatever files there are before.  Then
every file that the first run writes is written by the second one, with the same contents, and the
paths of each kind that the first run writes are the first ones that the second run writes. -/
theorem export_more
    (echoes : ∀ fetcher, source.fetcher? configuration = .ok fetcher → fetcher.Echoes)
    {ids more : List String}
    (exported : (source.run configuration mode ids).Gives files after paths)
    (exported' : (source.run configuration mode (ids ++ more)).Gives files' after' paths') :
    (∀ path ∈ paths, path ∈ paths' ∧
        ∃ contents, after.read path = .ok contents ∧ after'.read path = .ok contents) ∧
      ∀ kind, paths.filter (Output.isFileOf kind) <+: paths'.filter (Output.isFileOf kind) := by
  obtain ⟨kind, fetcher, first, _, named, connected, loaded, _, written⟩ :=
    Source.gives_run_iff.1 exported
  obtain ⟨kind', fetcher', second, _, named', connected', loaded', _, written'⟩ :=
    Source.gives_run_iff.1 exported'
  cases named.symm.trans named'
  cases connected.symm.trans connected'
  have echo := echoes fetcher connected
  have extension : first.Extends second := by
    rw [Inventory.loadEach_append] at loaded'
    obtain ⟨_, _, start, others⟩ := Session.gives_bind_iff.1 loaded'
    rw [← start.state, loaded.state] at others
    rw [← others.state]
    exact (Inventory.loadEach_growths fetcher kind more first).extends
  rw [Inventory.eq_reached_of_gives loaded, Inventory.eq_reached_of_gives loaded'] at extension
  rw [Inventory.eq_reached_of_gives loaded] at written
  rw [Inventory.eq_reached_of_gives loaded'] at written'
  obtain ⟨rfl, hold⟩ := Output.gives_writeEach (Output.apart_ofInventory _ _) written
  obtain ⟨rfl, hold'⟩ := Output.gives_writeEach (Output.apart_ofInventory _ _) written'
  constructor
  · intro path member
    obtain ⟨output, inside, rfl⟩ := List.mem_map.1 member
    obtain ⟨text, rendered, stored⟩ := hold output inside
    have inside' := Output.ofInventory_subset (Inventory.callsFor_echo echo ids)
      (Inventory.callsFor_echo echo (ids ++ more)) extension rendered inside
    obtain ⟨text', rendered', stored'⟩ := hold' output inside'
    cases rendered.symm.trans rendered'
    exact ⟨List.mem_map_of_mem inside', text.toUTF8.toList, stored, stored'⟩
  · intro ofKind
    rw [Output.filter_isFileOf_ofInventory, Output.filter_isFileOf_ofInventory]
    exact (extension.namesOf ofKind).map _

end Runs

/-- Two dashboards of one name, each with widgets that show charts of the query `r` and of another
one. -/
def twinDashboards : List Dashboard :=
  [{ id := "a", name := "KPIs", tags := [],
      widgets := [showingPayload 11 "q", showingPayload 11 "r"] },
    { id := "b", name := "KPIs", tags := [],
      widgets := [showingPayload 11 "s", showingPayload 11 "r"] }]

/-- The source that has them. -/
def twinSource : Source := .atHand (servingFetcher twinDashboards sharedQueries)

/-- A configuration whose output goes into a directory of its own. -/
def twinConfiguration : Configuration where
  host := ""
  token := ""
  timeout := Configuration.defaultTimeout
  outputDirectory := .ofText "out"
  skipTableDefaults := true

/-- A store without files. -/
def noFiles : FileStore := { entries := [], workingDirectory := [] }

/-- An export of some of the dashboards. -/
def twinRun (ids : List String) : Session FileStore (List Path) :=
  twinSource.run twinConfiguration "dashboard" ids

/-- The files with these names in the output directory. -/
def twinPaths (names : List String) : List Path :=
  names.map twinConfiguration.outputDirectory.child

theorem export_more_twins :
    ∃ after after' paths paths',
      (twinRun ["a"]).Gives noFiles after paths ∧
      (twinRun (["a"] ++ ["b"])).Gives after after' paths' ∧
      paths = twinPaths ["query_q.tf", "query_r.tf", "dashboard_kpis.tf"] ∧
      paths' = twinPaths ["query_q.tf", "query_r.tf", "query_s.tf", "dashboard_kpis.tf",
        "dashboard_kpis_1.tf"] ∧
      (∀ path ∈ paths, path ∈ paths' ∧
        ∃ contents, after.read path = .ok contents ∧ after'.read path = .ok contents) ∧
      ∀ kind, paths.filter (Output.isFileOf kind) <+: paths'.filter (Output.isFileOf kind) := by
  have echoes : ∀ fetcher, twinSource.fetcher? twinConfiguration = .ok fetcher →
      fetcher.Echoes := by
    intro fetcher connected
    cases connected
    exact servingFetcher_echoes _ _
  have first : (twinRun ["a"]).Gives noFiles (twinRun ["a"] noFiles).state
      (twinPaths ["query_q.tf", "query_r.tf", "dashboard_kpis.tf"]) :=
    Session.gives_iff.2 ⟨rfl, by decide +kernel⟩
  have second : (twinRun (["a"] ++ ["b"])).Gives (twinRun ["a"] noFiles).state
      (twinRun (["a"] ++ ["b"]) (twinRun ["a"] noFiles).state).state
      (twinPaths ["query_q.tf", "query_r.tf", "query_s.tf", "dashboard_kpis.tf",
        "dashboard_kpis_1.tf"]) :=
    Session.gives_iff.2 ⟨rfl, by decide +kernel⟩
  exact ⟨_, _, _, _, first, second, rfl, rfl, export_more echoes first second⟩

end Export

end DashboardExport
