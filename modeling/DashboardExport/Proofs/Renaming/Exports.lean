import DashboardExport.Proofs.Export.Extension
import DashboardExport.Proofs.Renaming.Services

/-!
# Exports under other ids

No text names an object by its id: what refers to a dashboard, a query or a visualization
does so by the resource name.  So inventories that are the same up to the ids are written
as the same files with the same texts (`ofInventory_alike`), and a run over a renamed
service ends as the run over the service does (`run_renamed`).
-/

set_option autoImplicit false

namespace DashboardExport

open Hcl (Item)
open Export Rendering Service Storage

namespace IdRenaming

variable {ρ : IdRenaming}

/-! ## Texts of queries -/

theorem queryItem_eq {query query' : Entry Query}
    (same : ρ.QueryEntries query query') :
    queryItem query = queryItem query' := by
  have alike := same.object
  simp only [queryItem, alike.options, alike.schedule, alike.dataSourceId, alike.name,
    alike.description, alike.tags, alike.text, same.resourceName]

theorem optionsText_eq {visualization visualization' : Visualization}
    (same : ρ.Visualizations visualization visualization') (skipDefaults : Bool) :
    optionsText skipDefaults visualization = optionsText skipDefaults visualization' := by
  have lower : visualization.lowerType = visualization'.lowerType := congrArg Text.lower same.type
  rw [optionsText, optionsText, optionsJson, optionsJson, lower, same.options]

theorem visualizationItem_eq {query query' : Entry Query}
    (owner : ρ.QueryEntries query query')
    {entry entry' : Entry Visualization}
    (same : ρ.VisualizationEntries entry entry') (skipDefaults : Bool) :
    visualizationItem skipDefaults query entry = visualizationItem skipDefaults query' entry' := by
  have alike := same.object.toVisualizations
  simp only [visualizationItem, optionsText_eq alike, Visualization.lowerType, alike.type,
    alike.name, alike.description, owner.resourceName, same.resourceName]

/-- **The text of a renamed query is the text of the query.** -/
theorem renderQuery_agree {inventory inventory' : Inventory}
    (same : ρ.Inventories inventory inventory') {query query' : Entry Query}
    (entry : ρ.QueryEntries query query') (skipDefaults : Bool) :
    Agree Eq (renderQuery skipDefaults inventory query)
      (renderQuery skipDefaults inventory' query') := by
  have own : List.Forall₂ ρ.VisualizationEntries
      (inventory.visualizationsFor query) (inventory'.visualizationsFor query') :=
    filter_rel same.visualizations fun shown =>
      ObjectIds.beq_eq shown.object.queryId entry.remoteId
  have shown : Agree Eq
      ((inventory.visualizationsFor query).mapM (visualizationItem skipDefaults query))
      ((inventory'.visualizationsFor query').mapM (visualizationItem skipDefaults query')) := by
    refine Agree.mapM_eq own ?_
    intro visualization visualization' alike
    rw [visualizationItem_eq entry alike]
    exact .refl (fun _ => rfl) _
  have items : Agree Eq (queryItems skipDefaults inventory query)
      (queryItems skipDefaults inventory' query') := by
    rw [queryItems, queryItems, queryItem_eq entry]
    refine ((Agree.refl (fun _ => rfl) _).mapError _ _).bind ?_
    rintro first _ rfl
    refine (shown.mapError _ _).bind ?_
    rintro rest _ rfl
    exact .ok rfl
  exact items.map fun listed => congrArg Item.render listed

/-! ## Texts of dashboards -/

theorem contentItem_agree {inventory inventory' : Inventory}
    (same : ρ.Inventories inventory inventory') {widget widget' : Entry Widget}
    (entry : ρ.WidgetEntries widget widget') :
    Agree Eq (contentItem inventory widget) (contentItem inventory' widget') := by
  have linked := entry.object.visualizationId
  rw [contentItem, contentItem]
  generalize widget.object.visualizationId = link, widget'.object.visualizationId = link' at linked
  cases linked with
  | none =>
      rw [entry.object.text]
      exact .ok rfl
  | @some id id' renamed =>
      have found : Option.Rel ρ.VisualizationEntries
          (inventory.findVisualization id) (inventory'.findVisualization id') :=
        find?_rel same.visualizations fun alike => VisualizationIds.beq_eq alike.remoteId renamed
      dsimp only
      generalize inventory.findVisualization id = shown,
        inventory'.findVisualization id' = shown' at found
      cases found with
      | none => exact .error _ _
      | some alike =>
          refine .ok ?_
          rw [alike.resourceName]

theorem widgetItem_agree {inventory inventory' : Inventory}
    (same : ρ.Inventories inventory inventory') {dashboard dashboard' : Entry Dashboard}
    (owner : ρ.DashboardEntries dashboard dashboard')
    {widget widget' : Entry Widget}
    (entry : ρ.WidgetEntries widget widget') :
    Agree Eq (widgetItem inventory dashboard widget)
      (widgetItem inventory' dashboard' widget') := by
  rw [widgetItem, widgetItem, entry.object.options, entry.resourceName, owner.resourceName]
  refine (contentItem_agree same entry).bind ?_
  rintro content _ rfl
  refine (Agree.refl (fun _ => rfl) _).bind ?_
  rintro mappings _ rfl
  exact .ok rfl

/-- **The text of a renamed dashboard is the text of the dashboard.** -/
theorem renderDashboard_agree {inventory inventory' : Inventory}
    (same : ρ.Inventories inventory inventory') {dashboard dashboard' : Entry Dashboard}
    (entry : ρ.DashboardEntries dashboard dashboard') :
    Agree Eq (renderDashboard inventory dashboard) (renderDashboard inventory' dashboard') := by
  have own : List.Forall₂ ρ.WidgetEntries
      (inventory.widgetsFor dashboard) (inventory'.widgetsFor dashboard') :=
    filter_rel same.widgets fun widget =>
      ObjectIds.beq_eq widget.object.dashboardId entry.remoteId
  have first : dashboardItem dashboard = dashboardItem dashboard' := by
    have alike := entry.object
    rw [dashboardItem, dashboardItem, alike.name, alike.tags, entry.resourceName]
  have items : Agree Eq (dashboardItems inventory dashboard)
      (dashboardItems inventory' dashboard') := by
    rw [dashboardItems, dashboardItems, first]
    refine (Agree.mapM_eq own (widgetItem_agree same entry)).bind ?_
    rintro widgets _ rfl
    exact .ok rfl
  exact (items.map fun listed => congrArg Item.render listed).mapError _ _

/-! ## Files -/

/-- Outputs with one file name that are rendered to one text, or both to none. -/
structure Outputs (output output' : Output) : Prop where
  kind : output.kind = output'.kind
  resourceName : output.resourceName = output'.resourceName
  text : Agree Eq output.text output'.text

theorem ofInventory_alike {inventory inventory' : Inventory}
    (same : ρ.Inventories inventory inventory') (skipDefaults : Bool) :
    List.Forall₂ Outputs (Output.ofInventory skipDefaults inventory)
      (Output.ofInventory skipDefaults inventory') := by
  refine List.rel_append ?_ ?_
  · rw [List.forall₂_map_left_iff, List.forall₂_map_right_iff]
    refine same.queries.imp ?_
    intro query query' entry
    exact ⟨rfl, entry.resourceName, renderQuery_agree same entry skipDefaults⟩
  · rw [List.forall₂_map_left_iff, List.forall₂_map_right_iff]
    refine same.dashboards.imp ?_
    intro dashboard dashboard' entry
    exact ⟨rfl, entry.resourceName, renderDashboard_agree same entry⟩

theorem write_alike (directory : Path) {output output' : Output} (same : Outputs output output') :
    Session.Alike Eq Eq (output.write directory) (output'.write directory) := by
  have place : output.path directory = output'.path directory := by
    rw [Output.path, Output.path, same.kind, same.resourceName]
  rw [Output.write, Output.write, place]
  refine (Session.Alike.tell _ _).bind ?_
  intro _ _ _
  refine (Session.Alike.ofExcept same.text).bind ?_
  rintro text _ rfl
  exact Session.Alike.refl _

theorem writeEach_alike (directory : Path) {outputs outputs' : List Output}
    (same : List.Forall₂ Outputs outputs outputs') :
    Session.Alike Eq Eq (Output.writeEach directory outputs)
      (Output.writeEach directory outputs') := by
  induction same with
  | nil => exact .done rfl
  | cons first _ ih =>
      refine (write_alike directory first).bind ?_
      rintro path _ rfl
      refine ih.bind ?_
      rintro paths _ rfl
      exact .done rfl

/-- **Exports from a service and from the renamed one leave the same files.** -/
theorem exportFrom_alike {fetcher fetcher' : Fetcher} (services : ρ.Fetchers fetcher fetcher')
    (configuration : Configuration) (kind : RemoteKind) (ids : List String) :
    Session.Alike Eq Eq (Export.exportFrom fetcher configuration kind ids)
      (Export.exportFrom fetcher' configuration kind (ids.map (ρ.object kind))) := by
  have nothing : ρ.Inventories Inventory.empty Inventory.empty := ⟨.nil, .nil, .nil, .nil⟩
  refine (Session.Alike.within nothing (loadAll_alike services kind ids)).bind ?_
  intro loaded loaded' same
  refine (Session.Alike.refl (Output.prepare configuration.outputDirectory)).bind ?_
  intro _ _ _
  exact writeEach_alike configuration.outputDirectory
    (ofInventory_alike same.1 configuration.skipTableDefaults)

/-! ## Runs -/

/-- Two sources of fetchers: the second one has a renamed service, or neither has any. -/
def Sources (ρ : IdRenaming) (configuration : Configuration) (source source' : Source) : Prop :=
  Agree ρ.Fetchers (source.fetcher? configuration) (source'.fetcher? configuration)

/-- The new id of a root. -/
def root (ρ : IdRenaming) (mode : String) : String → String :=
  match RemoteKind.ofMode? mode with
  | some kind => ρ.object kind
  | none => id

section Runs

variable {configuration : Configuration} {source source' : Source}

theorem connect_alike (sources : ρ.Sources configuration source source') :
    Session.Alike Eq ρ.Fetchers (source.connect configuration)
      (source'.connect configuration) := by
  rintro files _ rfl
  obtain ⟨_, ended⟩ := source.connect_ends configuration files
  obtain ⟨_, ended'⟩ := source'.connect_ends configuration files
  rw [ended, ended']
  exact ⟨rfl, sources⟩

theorem run_alike (sources : ρ.Sources configuration source source') (mode : String)
    (ids : List String) :
    Session.Alike Eq Eq (source.run configuration mode ids)
      (source'.run configuration mode (ids.map (ρ.root mode))) := by
  have kinds : Agree (fun kind kind' => kind = kind' ∧ RemoteKind.ofMode? mode = some kind)
      (kindOfMode mode) (kindOfMode mode) := by
    rw [kindOfMode]
    cases RemoteKind.ofMode? mode with
    | none => exact .error _ _
    | some kind => exact .ok ⟨rfl, rfl⟩
  rw [Source.run_eq, Source.run_eq]
  refine (Session.Alike.ofExcept kinds).bind ?_
  rintro kind _ ⟨rfl, named⟩
  rw [root, named]
  refine (connect_alike sources).bind ?_
  intro fetcher fetcher' services
  exact exportFrom_alike services configuration kind ids

end Runs

/-- **The output does not depend on remote ids.**  Every service can be renamed: dashboards,
queries and visualizations get other ids, different ones staying different, and widgets get any
ids.  A run over a renamed service with the new ids of the roots succeeds when the run over the
service does, and then it writes the same paths in the same order.  Whether they succeed or not,
both runs leave the same files with the same contents. -/
theorem run_renamed (ρ : IdRenaming) :
    (∀ fetcher, ρ.Fetchers fetcher (ρ.fetcher fetcher)) ∧
      ∀ {configuration : Configuration} {source source' : Source},
        ρ.Sources configuration source source' →
        ∀ (mode : String) (ids : List String) (files : FileStore),
          (source.run configuration mode ids files).result.toOption =
            (source'.run configuration mode (ids.map (ρ.root mode)) files).result.toOption ∧
          (source.run configuration mode ids files).state =
            (source'.run configuration mode (ids.map (ρ.root mode)) files).state := by
  refine ⟨ρ.fetchers_fetcher, ?_⟩
  intro configuration source source' sources mode ids files
  obtain ⟨states, results⟩ := run_alike sources mode ids files files rfl
  exact ⟨results.toOption_eq, states⟩

/-- Every id gets a letter in front. -/
def prefixed : IdRenaming where
  object
    | .dashboard, id => "d" ++ id
    | .query, id => "q" ++ id
  visualization id := "v" ++ id
  object_injective := by
    intro kind id other same
    cases kind with
    | dashboard => exact (String.append_right_inj "d").1 same
    | query => exact (String.append_right_inj "q").1 same
  visualization_injective := fun _ _ same => (String.append_right_inj "v").1 same

/-- The renamed source of the two dashboards. -/
def prefixedSource : Source :=
  .atHand (servingFetcher (twinDashboards.map prefixed.dashboard)
    (sharedQueries.map prefixed.query))

/-- An export of some of the renamed dashboards. -/
def prefixedRun (ids : List String) : Session FileStore (List Path) :=
  prefixedSource.run twinConfiguration "dashboard" ids

theorem run_renamed_prefixed :
    prefixed.Sources twinConfiguration twinSource prefixedSource ∧
      ["a", "b"].map (prefixed.root "dashboard") = ["da", "db"] ∧
      (twinRun ["a", "b"] noFiles).result.toOption = some (twinPaths ["query_q.tf", "query_r.tf",
        "query_s.tf", "dashboard_kpis.tf", "dashboard_kpis_1.tf"]) ∧
      (twinRun ["a", "b"] noFiles).result.toOption =
        (prefixedRun (["a", "b"].map (prefixed.root "dashboard")) noFiles).result.toOption ∧
      (twinRun ["a", "b"] noFiles).state =
        (prefixedRun (["a", "b"].map (prefixed.root "dashboard")) noFiles).state := by
  have sources : prefixed.Sources twinConfiguration twinSource prefixedSource :=
    .ok (prefixed.fetchers_servingFetcher twinDashboards sharedQueries)
  exact ⟨sources, by decide +kernel, by decide +kernel,
    prefixed.run_renamed.2 sources "dashboard" ["a", "b"] noFiles⟩

end IdRenaming

end DashboardExport
