import DashboardExport.Proofs.Export.Extension
import DashboardExport.Proofs.Spelling.Loads

/-!
# Exports do not see how ids are written

No text shows a payload that is kept for later, so the same files are written from an
inventory and from its view with texts for ids (`ofInventory_withTexts`), and an export from
a service is the export from its view (`exportFrom_withTexts`).

Two sources whose answers differ in the writing of ids alone have the same view
(`Source.Respelled`).  So runs with them are the same run: the same requests in the same
order, the same files, and the same result or failure at the same point (`run_respelled`).
-/

set_option autoImplicit false

namespace DashboardExport

open Decoding Rendering Service Storage

/-! ## Texts -/

section Texts

variable (skipDefaults : Bool) (inventory : Inventory)

theorem visualizationsFor_withTexts (query : Entry Query) :
    inventory.withTexts.visualizationsFor (query.mapObject Query.withTexts) =
      (inventory.visualizationsFor query).map (Entry.mapObject Visualization.withTexts) :=
  List.filter_map

theorem widgetsFor_withTexts (dashboard : Entry Dashboard) :
    inventory.withTexts.widgetsFor (dashboard.mapObject Dashboard.withTexts) =
      (inventory.widgetsFor dashboard).map (Entry.mapObject Widget.withTexts) :=
  List.filter_map

theorem findVisualization_withTexts (id : String) :
    inventory.withTexts.findVisualization id =
      (inventory.findVisualization id).map (Entry.mapObject Visualization.withTexts) :=
  List.find?_map

theorem renderQuery_withTexts (query : Entry Query) :
    renderQuery skipDefaults inventory.withTexts (query.mapObject Query.withTexts) =
      renderQuery skipDefaults inventory query := by
  rw [renderQuery, renderQuery, queryItems, queryItems, visualizationsFor_withTexts, List.mapM_map]
  rfl

theorem contentItem_withTexts (widget : Entry Widget) :
    contentItem inventory.withTexts (widget.mapObject Widget.withTexts) =
      contentItem inventory widget := by
  rw [contentItem, contentItem, Entry.mapObject, Widget.withTexts]
  cases widget.object.visualizationId with
  | none => rfl
  | some id =>
      dsimp only
      rw [findVisualization_withTexts]
      cases inventory.findVisualization id with
      | none => rfl
      | some shown => rfl

theorem widgetItem_withTexts (dashboard : Entry Dashboard) (widget : Entry Widget) :
    widgetItem inventory.withTexts (dashboard.mapObject Dashboard.withTexts)
        (widget.mapObject Widget.withTexts) =
      widgetItem inventory dashboard widget := by
  rw [widgetItem, widgetItem, contentItem_withTexts]
  rfl

theorem renderDashboard_withTexts (dashboard : Entry Dashboard) :
    renderDashboard inventory.withTexts (dashboard.mapObject Dashboard.withTexts) =
      renderDashboard inventory dashboard := by
  have each : widgetItem inventory.withTexts (dashboard.mapObject Dashboard.withTexts) ∘
      Entry.mapObject Widget.withTexts = widgetItem inventory dashboard :=
    funext (widgetItem_withTexts inventory dashboard)
  rw [renderDashboard, renderDashboard, dashboardItems, dashboardItems, widgetsFor_withTexts,
    List.mapM_map, each]
  rfl

/-- **The same texts are written**, whichever way ids are written. -/
theorem ofInventory_withTexts :
    Output.ofInventory skipDefaults inventory.withTexts =
      Output.ofInventory skipDefaults inventory := by
  rw [Output.ofInventory, Output.ofInventory]
  refine congrArg₂ (· ++ ·) ?_ ?_
  · refine List.map_map.trans (List.map_congr_left fun query _ => ?_)
    exact congrArg (Output.mk _ _) (renderQuery_withTexts skipDefaults inventory query)
  · refine List.map_map.trans (List.map_congr_left fun dashboard _ => ?_)
    exact congrArg (Output.mk _ _) (renderDashboard_withTexts inventory dashboard)

end Texts

/-! ## Exports -/

/-- **An export does not show how the service writes ids.** -/
theorem Export.exportFrom_withTexts (fetcher : Fetcher) (configuration : Configuration)
    (kind : RemoteKind) (ids : List String) :
    exportFrom fetcher.withTexts configuration kind ids =
      exportFrom fetcher configuration kind ids := by
  refine Session.Views.eq ?_
  refine ((Inventory.loadAll_views fetcher kind ids).within Inventory.empty).bind ?_
  rintro ⟨inventory, _⟩
  dsimp only [Prod.map]
  rw [Output.writeAll, Output.writeAll, ofInventory_withTexts]
  exact .refl _

/-! ## Answers -/

namespace Service

/-- Two replies that differ in the writing of ids at most: whatever came back is the same, or both
are answers whose values are the same once every id is a text.  Each id may be written in its own
way at each of its places. -/
inductive Reply.Respelled : Reply → Reply → Prop where
  | same (reply : Reply) : Respelled reply reply
  | answers {status : Nat} {body body' : List UInt8} {value value' : Json}
      (success : Client.isSuccess status = true)
      (reads : Json.ofDocument body = .ok value) (reads' : Json.ofDocument body' = .ok value')
      (alike : answerText value = answerText value') :
      Respelled (.response status body) (.response status body')

section Replies

variable {α : Type} {kind : RemoteKind} {id : String} {decode : Json → Outcome α} {change : α → α}
  (views : ∀ value, decode (answerText value) = change <$> decode value)
include views

theorem readReply_map {status : Nat} {body : List UInt8} {value : Json}
    (success : Client.isSuccess status = true) (reads : Json.ofDocument body = .ok value) :
    (Client.readReply kind id decode (.response status body)).map change =
      (Refusal.ofOutcome (.answer kind id) (decode (answerText value))).mapError .refused := by
  rw [Client.readReply, if_pos success, Client.decodeBody, reads, views, Outcome.ofOutcome_map]
  dsimp only
  cases Refusal.ofOutcome (.answer kind id) (decode value) with
  | error refusal => rfl
  | ok result => rfl

/-- **Respelled replies are read to the same view.** -/
theorem readReply_respelled {reply reply' : Reply} (same : reply.Respelled reply') :
    (Client.readReply kind id decode reply).map change =
      (Client.readReply kind id decode reply').map change := by
  cases same with
  | same => rfl
  | answers success reads reads' alike =>
      rw [readReply_map views success reads, readReply_map views success reads', alike]

end Replies

/-- Two transports whose replies differ in the writing of ids at most. -/
def Transport.Respelled (transport transport' : Transport) : Prop :=
  ∀ request, (transport request).Respelled (transport' request)

theorem Client.fetcher_respelled {transport transport' : Transport}
    (same : Transport.Respelled transport transport') (base : Address)
    (authorization : Option String) :
    (Client.mk base authorization transport).fetcher.withTexts =
      (Client.mk base authorization transport').fetcher.withTexts := by
  -- What is asked for depends on the address and the id only, so the two clients differ in what
  -- comes back.
  have fetched {α : Type} {kind : RemoteKind} {decode : Json → Outcome α} {change : α → α}
      (views : ∀ value, decode (answerText value) = change <$> decode value) (id : String) :
      ((Client.mk base authorization transport).fetch kind decode id).change change =
        ((Client.mk base authorization transport').fetch kind decode id).change change := by
    simp only [Client.fetch, Client.request]
    cases base.extend (objectPath kind id) with
    | error fault => rfl
    | ok address => exact congrArg (Fetched.mk _) (readReply_respelled views (same _))
  exact congrArg₂ Fetcher.mk (funext (fetched Dashboard.decode_answerText))
    (funext (fetched Query.decode_answerText))

end Service

/-! ## Runs -/

namespace Export

/-- Getting the view of the fetcher of a source. -/
def Source.connectView (configuration : Configuration) (source : Source) :
    Session FileStore Fetcher := fun files =>
  ⟨files, source.opening configuration, (source.fetcher? configuration).map Fetcher.withTexts⟩

/-- A run needs the view of its fetcher only. -/
theorem Source.run_eq_view (source : Source) (configuration : Configuration) (mode : String)
    (ids : List String) :
    source.run configuration mode ids = (do
      let kind ← Session.ofExcept (kindOfMode mode)
      let fetcher ← source.connectView configuration
      exportFrom fetcher configuration kind ids) := by
  have connects : Session.Views id Fetcher.withTexts (source.connect configuration)
      (source.connectView configuration) := by
    intro files
    rw [connect_apply]
    rfl
  rw [run_eq]
  -- Only the export uses the fetcher, and it is the same for the view.
  refine congrArg _ (funext fun kind => (Session.Views.eq (connects.bind ?_)).symm)
  intro fetcher
  rw [exportFrom_withTexts]
  exact .refl _

/-- Two sources that differ in the writing of ids at most. -/
inductive Source.Respelled : Source → Source → Prop where
  | atHand {fetcher fetcher' : Fetcher} (same : fetcher.withTexts = fetcher'.withTexts) :
      Respelled (.atHand fetcher) (.atHand fetcher')
  | online {transport transport' : Transport} (same : transport.Respelled transport') :
      Respelled (.online transport) (.online transport')

section Runs

variable {configuration : Configuration} {source source' : Source}
  (same : source.Respelled source')
include same

/-- Respelled sources have fetchers with the same view, or the same failure. -/
theorem fetcher?_respelled :
    (source.fetcher? configuration).map Fetcher.withTexts =
      (source'.fetcher? configuration).map Fetcher.withTexts := by
  cases same with
  | atHand same => exact congrArg Except.ok same
  | online same =>
      simp only [Source.fetcher?, Client.open?]
      cases baseAddress configuration.host with
      | error fault => rfl
      | ok base =>
          cases tokenAuthorization (some configuration.token) with
          | error problem => rfl
          | ok authorization => exact congrArg Except.ok (Client.fetcher_respelled same _ _)

theorem connectView_respelled :
    source.connectView configuration = source'.connectView configuration := by
  have opens : source.opening configuration = source'.opening configuration := by
    cases same with
    | atHand _ => rfl
    | online _ => rfl
  funext files
  rw [Source.connectView, Source.connectView, opens, fetcher?_respelled same]

/-- **Nothing that a run does shows how the service writes ids.**  Runs with sources that differ in
the writing of ids alone make the same requests in the same order, write the same files with the
same contents, and end with the same result or stop at the same point with the same failure.  What
they load is the same inventory, except that the payloads kept for later may differ in the writing
of ids. -/
theorem run_respelled (mode : String) (ids : List String) :
    (∀ files, source.run configuration mode ids files =
      source'.run configuration mode ids files) ∧
    ∀ fetcher fetcher', source.fetcher? configuration = .ok fetcher →
      source'.fetcher? configuration = .ok fetcher' → ∀ kind,
        (Inventory.loadAll fetcher kind ids .empty).events =
            (Inventory.loadAll fetcher' kind ids .empty).events ∧
          (Inventory.loadAll fetcher kind ids .empty).result =
            (Inventory.loadAll fetcher' kind ids .empty).result ∧
          (Inventory.loadAll fetcher kind ids .empty).state.withTexts =
            (Inventory.loadAll fetcher' kind ids .empty).state.withTexts := by
  constructor
  · intro files
    rw [Source.run_eq_view, Source.run_eq_view, connectView_respelled same]
  · intro fetcher fetcher' got got' kind
    have views : fetcher.withTexts = fetcher'.withTexts := by
      have respelled : (source.fetcher? configuration).map _ = _ := fetcher?_respelled same
      rw [got, got'] at respelled
      exact Except.ok.inj respelled
    have loaded := Inventory.loadAll_withTexts fetcher kind ids
    rw [views, Inventory.loadAll_withTexts, Ending.mk.injEq] at loaded
    exact ⟨loaded.2.1.symm, loaded.2.2.symm, loaded.1.symm⟩

end Runs

/-- An object that is a dashboard and the query whose chart the dashboard shows. -/
def numberedText : String :=
  "\x7b\"id\":1,\"name\":\"n\",\"widgets\":[\x7b\"id\":3,\"visualization\":" ++
    "\x7b\"id\":2,\"type\":\"chart\",\"query\":\x7b\"id\":1\x7d\x7d\x7d]," ++
    "\"visualizations\":[\x7b\"id\":\"2\",\"type\":\"chart\"\x7d]\x7d"

/-- The same object; other ids are texts. -/
def respelledText : String :=
  "\x7b\"id\":\"1\",\"name\":\"n\",\"widgets\":[\x7b\"id\":3,\"visualization\":" ++
    "\x7b\"id\":\"2\",\"type\":\"chart\",\"query\":\x7b\"id\":\"1\"\x7d\x7d\x7d]," ++
    "\"visualizations\":[\x7b\"id\":2,\"type\":\"chart\"\x7d]\x7d"

/-- What these texts are read to, with the ids in them. -/
def chartOfItself (root shown referred own : Json) : Json :=
  .obj [("id", root), ("name", .str "n"),
    ("widgets", .arr [.obj [("id", .int 3), ("visualization",
      .obj [("id", shown), ("type", .str "chart"), ("query", .obj [("id", referred)])])]]),
    ("visualizations", .arr [.obj [("id", own), ("type", .str "chart")]])]

/-- A service that answers every request with a text. -/
def answering (text : String) : Source := .online fun _ => .response 200 text.toUTF8.toList

/-- An export of the dashboard 1 from it. -/
def answeredRun (text : String) : Ending FileStore (List Path) :=
  (answering text).run { twinConfiguration with host := "https://h.example", token := "t" }
    "dashboard" ["1"] noFiles

theorem run_respelled_chart :
    (answering numberedText).Respelled (answering respelledText) ∧
      (answeredRun numberedText).result = .ok (twinPaths ["query_n.tf", "dashboard_n.tf"]) ∧
      answeredRun numberedText = answeredRun respelledText := by
  have reads : Json.ofDocument numberedText.toUTF8.toList =
      .ok (chartOfItself (.int 1) (.int 2) (.int 1) (.str "2")) := by decide +kernel
  have reads' : Json.ofDocument respelledText.toUTF8.toList =
      .ok (chartOfItself (.str "1") (.str "2") (.str "1") (.int 2)) := by decide +kernel
  have same : (answering numberedText).Respelled (answering respelledText) :=
    .online fun _ => .answers rfl reads reads' (by decide +kernel)
  exact ⟨same, by decide +kernel, (run_respelled same "dashboard" ["1"]).1 noFiles⟩

end Export

end DashboardExport
