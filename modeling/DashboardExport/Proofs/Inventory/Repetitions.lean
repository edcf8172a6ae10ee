import DashboardExport.Proofs.Inventory.Parts
import Mathlib.Data.List.Nodup
import Mathlib.Data.Set.Basic

/-!
# Repeated loads

Whether an object is there already is read off the ids that the loaded objects carry,
while a load is asked for by an id of its own.  The two are the same when the service
answers an id with the object of that id.  Then no two dashboards and no two queries of
a reached inventory have the same id, and a load that has succeeded once does nothing
when it is repeated (`LoadedOnce`).

One answer that carries another id is enough to lose this: the next load of the same id
asks for it and adds it again.  So objects are loaded once exactly when every answer
that can be loaded carries the id it was asked for by (`loadedOnce_iff_echoesDecoded`).
-/

set_option autoImplicit false

namespace DashboardExport

open Service

/-- A service that answers an id, as far as the answer can be loaded, with an object of that id. -/
structure Service.Fetcher.EchoesDecoded (fetcher : Fetcher) : Prop where
  dashboard : ∀ {id : String} {dashboard : Dashboard},
    (fetcher.dashboard id).result = .ok dashboard → dashboard.Decodes → dashboard.id = id
  query : ∀ {id : String} {query : Query},
    (fetcher.query id).result = .ok query → query.Decodes → query.id = id

/-! ## Ids of entries -/

section Ids

variable {α : Type} {entries : List (Entry α)} {id : String}

theorem any_remoteId_eq_true_iff :
    (entries.any fun entry => entry.remoteId == id) = true ↔ id ∈ entries.map Entry.remoteId := by
  rw [List.any_eq_true, List.mem_map]
  simp only [beq_iff_eq]

theorem any_remoteId_eq_false_iff :
    (entries.any fun entry => entry.remoteId == id) = false ↔
      id ∉ entries.map Entry.remoteId := by
  rw [← Bool.not_eq_true, any_remoteId_eq_true_iff]

/-- Adding an entry keeps ids different when there is none with its id. -/
theorem nodup_remoteId_concat {entry : Entry α} (distinct : (entries.map Entry.remoteId).Nodup)
    (absent : (entries.any fun other => other.remoteId == entry.remoteId) = false) :
    ((entries ++ [entry]).map Entry.remoteId).Nodup := by
  rw [List.map_append, List.map_singleton, ← List.concat_eq_append]
  exact distinct.concat (any_remoteId_eq_false_iff.1 absent)

end Ids

namespace Inventory

/-- Whether there is an object of a kind with an id. -/
def has (inventory : Inventory) : RemoteKind → String → Bool
  | .dashboard, id => inventory.hasDashboard id
  | .query, id => inventory.hasQuery id

/-- No two dashboards have the same id, and no two queries have. -/
structure IdsApart (inventory : Inventory) : Prop where
  dashboards : (inventory.dashboards.map Entry.remoteId).Nodup
  queries : (inventory.queries.map Entry.remoteId).Nodup

variable {fetcher : Fetcher} {inventory : Inventory} {ending : Ending Inventory Unit}

/-! ## What a load keeps -/

theorem QueryLoad.idsApart {id : String} (load : QueryLoad fetcher id inventory ending)
    (echoes : fetcher.EchoesDecoded) (apart : IdsApart inventory) : IdsApart ending.state := by
  cases load with
  | known _ => exact apart
  | unfetched _ _ => exact apart
  | undecodable _ _ _ => exact apart
  | @added absent query fetched _ decoded =>
      have same : query.id = id :=
        echoes.query fetched (exists_visualizationEntries_iff.1 ⟨_, decoded⟩)
      rw [← same] at absent
      exact ⟨apart.dashboards, nodup_remoteId_concat apart.queries absent⟩

theorem ShownLoad.idsApart {widget : Widget} (load : ShownLoad fetcher widget inventory ending)
    (echoes : fetcher.EchoesDecoded) (apart : IdsApart inventory) : IdsApart ending.state := by
  cases load with
  | unreadable _ => exact apart
  | nothing _ => exact apart
  | query _ load => exact load.idsApart echoes apart

theorem ShownLoads.idsApart {widgets : List (Entry Widget)}
    (loads : ShownLoads fetcher widgets inventory ending) (echoes : fetcher.EchoesDecoded)
    (apart : IdsApart inventory) : IdsApart ending.state := by
  induction loads with
  | done _ => exact apart
  | failed _ load => exact load.idsApart echoes apart
  | step load _ ih => exact ih (load.idsApart echoes apart)

theorem DashboardLoad.idsApart {id : String} (load : DashboardLoad fetcher id inventory ending)
    (echoes : fetcher.EchoesDecoded) (apart : IdsApart inventory) : IdsApart ending.state := by
  cases load with
  | known _ => exact apart
  | unfetched _ _ => exact apart
  | undecodable _ _ _ => exact apart
  | @admitted absent dashboard fetched _ decoded _ loads =>
      have same : dashboard.id = id :=
        echoes.dashboard fetched (exists_widgetEntries_iff.1 ⟨_, decoded⟩)
      rw [← same] at absent
      exact loads.idsApart echoes
        ⟨nodup_remoteId_concat apart.dashboards absent, apart.queries⟩

/-- **A call to a service that echoes ids keeps ids different**, whether it fails or not. -/
theorem idsApart_afterCall {call : LoadCall} (echoes : call.fetcher.EchoesDecoded)
    (apart : IdsApart inventory) : IdsApart (inventory.afterCall call) := by
  obtain ⟨fetcher, kind, id⟩ := call
  cases kind with
  | dashboard => exact (dashboardLoad fetcher id inventory).idsApart echoes apart
  | query => exact (queryLoad fetcher id inventory).idsApart echoes apart

theorem idsApart_foldl_afterCall {calls : List LoadCall}
    (echoes : ∀ call ∈ calls, call.fetcher.EchoesDecoded) (apart : IdsApart inventory) :
    IdsApart (calls.foldl afterCall inventory) := by
  induction calls generalizing inventory with
  | nil => exact apart
  | cons call rest ih =>
      exact ih (fun other member => echoes other (List.mem_cons_of_mem call member))
        (idsApart_afterCall (echoes call List.mem_cons_self) apart)

/-! ## What is there stays -/

theorem has_of_growth {before after : Inventory} (growth : Growth before after)
    {kind : RemoteKind} {id : String} (present : before.has kind id = true) :
    after.has kind id = true := by
  have stays {α : Type} {entries more : List (Entry α)}
      (inside : (entries.any fun entry => entry.remoteId == id) = true) :
      ((entries ++ more).any fun entry => entry.remoteId == id) = true := by
    rw [List.any_append, inside, Bool.true_or]
  cases kind with
  | dashboard =>
      cases growth with
      | query _ _ => exact present
      | dashboard _ _ => exact stays present
  | query =>
      cases growth with
      | query _ _ => exact stays present
      | dashboard _ _ => exact present

theorem has_of_growths {before after : Inventory} (growths : Growths before after)
    (kind : RemoteKind) {id : String} (present : before.has kind id = true) :
    after.has kind id = true := by
  induction growths with
  | refl => exact present
  | tail _ growth ih => exact has_of_growth growth ih

theorem any_remoteId_concat {α : Type} (entries : List (Entry α)) (entry : Entry α) :
    ((entries ++ [entry]).any fun other => other.remoteId == entry.remoteId) = true := by
  rw [List.any_append, List.any_cons, BEq.rfl, Bool.true_or, Bool.or_true]

theorem QueryLoad.has {id : String} (load : QueryLoad fetcher id inventory ending)
    (echoes : fetcher.EchoesDecoded) (success : ending.result = .ok ()) :
    ending.state.has .query id = true := by
  cases load with
  | known present => exact present
  | unfetched _ _ => cases success
  | undecodable _ _ _ => cases success
  | @added _ query fetched _ decoded =>
      have same : query.id = id :=
        echoes.query fetched (exists_visualizationEntries_iff.1 ⟨_, decoded⟩)
      rw [← same]
      exact any_remoteId_concat inventory.queries (inventory.queryEntry query)

theorem DashboardLoad.has {id : String} (load : DashboardLoad fetcher id inventory ending)
    (echoes : fetcher.EchoesDecoded) (success : ending.result = .ok ()) :
    ending.state.has .dashboard id = true := by
  cases load with
  | known present => exact present
  | unfetched _ _ => cases success
  | undecodable _ _ _ => cases success
  | @admitted _ dashboard fetched _ decoded _ loads =>
      have same : dashboard.id = id :=
        echoes.dashboard fetched (exists_widgetEntries_iff.1 ⟨_, decoded⟩)
      refine has_of_growths loads.growths .dashboard ?_
      rw [← same]
      exact any_remoteId_concat inventory.dashboards (inventory.dashboardEntry dashboard)

/-- **What is loaded from a service that echoes ids is there afterwards.** -/
theorem has_of_load (echoes : fetcher.EchoesDecoded) {kind : RemoteKind} {id : String}
    (success : (load fetcher kind id inventory).result = .ok ()) :
    (load fetcher kind id inventory).state.has kind id = true := by
  cases kind with
  | dashboard => exact (dashboardLoad fetcher id inventory).has echoes success
  | query => exact (queryLoad fetcher id inventory).has echoes success

/-- A load of what is there asks for nothing and changes nothing. -/
theorem load_of_has (fetcher : Fetcher) {kind : RemoteKind} {id : String}
    (present : inventory.has kind id = true) :
    load fetcher kind id inventory = ⟨inventory, [.alreadyLoaded kind id], .ok ()⟩ := by
  cases kind with
  | dashboard =>
      rw [load, loadDashboard, Session.state_bind]
      exact congrFun (if_pos present) inventory
  | query =>
      rw [load, loadQuery, Session.state_bind]
      exact congrFun (if_pos present) inventory

/-! ## What a load adds -/

/-- A query that can be loaded and is not there is added under the id that it carries. -/
theorem QueryLoad.map_remoteId {id : String} (load : QueryLoad fetcher id inventory ending)
    (absent : inventory.hasQuery id = false) {query : Query}
    (fetched : (fetcher.query id).result = .ok query) (decodes : query.Decodes) :
    ending.state.queries.map Entry.remoteId =
      inventory.queries.map Entry.remoteId ++ [query.id] := by
  cases load with
  | known present => exact absurd (present.symm.trans absent) (by decide)
  | unfetched _ failed => cases failed.symm.trans fetched
  | undecodable _ answered refused =>
      cases answered.symm.trans fetched
      obtain ⟨_, decoded⟩ : ∃ entries, visualizationEntries (inventory.queryEntry query) =
          .ok entries := exists_visualizationEntries_iff.2 decodes
      cases refused.symm.trans decoded
  | added _ answered _ =>
      cases answered.symm.trans fetched
      rw [addQuery, List.map_append]
      rfl

/-- The queries that widgets show leave the dashboards as they are. -/
theorem ShownLoads.dashboards {widgets : List (Entry Widget)}
    (loads : ShownLoads fetcher widgets inventory ending) :
    ending.state.dashboards = inventory.dashboards := by
  have each {widget : Widget} {inventory : Inventory} {ending : Ending Inventory Unit}
      (load : ShownLoad fetcher widget inventory ending) :
      ending.state.dashboards = inventory.dashboards := by
    cases load with
    | unreadable _ => rfl
    | nothing _ => rfl
    | query _ load => cases load <;> rfl
  induction loads with
  | done _ => rfl
  | failed _ load => exact each load
  | step load _ ih => exact ih.trans (each load)

/-- A dashboard that can be loaded and is not there is added under the id that it carries. -/
theorem DashboardLoad.map_remoteId {id : String} (load : DashboardLoad fetcher id inventory ending)
    (absent : inventory.hasDashboard id = false) {dashboard : Dashboard}
    (fetched : (fetcher.dashboard id).result = .ok dashboard) (decodes : dashboard.Decodes) :
    ending.state.dashboards.map Entry.remoteId =
      inventory.dashboards.map Entry.remoteId ++ [dashboard.id] := by
  cases load with
  | known present => exact absurd (present.symm.trans absent) (by decide)
  | unfetched _ failed => cases failed.symm.trans fetched
  | undecodable _ answered refused =>
      cases answered.symm.trans fetched
      obtain ⟨_, decoded⟩ : ∃ entries, widgetEntries (inventory.dashboardEntry dashboard) =
          .ok entries := exists_widgetEntries_iff.2 decodes
      cases refused.symm.trans decoded
  | admitted _ answered _ loads =>
      cases answered.symm.trans fetched
      rw [loads.dashboards, addDashboard, List.map_append]
      rfl

end Inventory

/-! ## Runs -/

/-- After some calls each object is there once: no two dashboards and no two queries have the same
id, and a call that has succeeded would ask for nothing and change nothing if it was repeated now,
whatever the service. -/
structure LoadedOnce (calls : List LoadCall) : Prop where
  apart : (Inventory.reached calls).IdsApart
  repeated : ∀ (earlier : List LoadCall) (call : LoadCall) (later : List LoadCall),
    calls = earlier ++ call :: later →
    (Inventory.load call.fetcher call.kind call.id (Inventory.reached earlier)).result = .ok () →
    ∀ fetcher : Fetcher, Inventory.load fetcher call.kind call.id (Inventory.reached calls) =
      ⟨Inventory.reached calls, [.alreadyLoaded call.kind call.id], .ok ()⟩

theorem loadedOnce_of_echoesDecoded {calls : List LoadCall}
    (echoes : ∀ call ∈ calls, call.fetcher.EchoesDecoded) : LoadedOnce calls where
  apart := Inventory.idsApart_foldl_afterCall echoes ⟨List.nodup_nil, List.nodup_nil⟩
  repeated := by
    rintro earlier call later rfl success fetcher
    have present := Inventory.has_of_load
      (echoes call (List.mem_append_right earlier List.mem_cons_self)) success
    refine Inventory.load_of_has fetcher ?_
    rw [Inventory.reached, List.foldl_append]
    exact Inventory.has_of_growths (Inventory.foldl_afterCall_growths later _) call.kind present

/-- A query that comes under another id is added twice by two loads of the same id. -/
theorem query_id_of_loadedOnce {fetcher : Fetcher} {id : String}
    (once : LoadedOnce [⟨fetcher, .query, id⟩, ⟨fetcher, .query, id⟩]) {query : Query}
    (fetched : (fetcher.query id).result = .ok query) (decodes : query.Decodes) :
    query.id = id := by
  by_contra differ
  let middle := Inventory.empty.afterCall ⟨fetcher, .query, id⟩
  have first : middle.queries.map Entry.remoteId = [query.id] :=
    (Inventory.queryLoad fetcher id Inventory.empty).map_remoteId rfl fetched decodes
  have absent : middle.hasQuery id = false := by
    rw [Inventory.hasQuery, any_remoteId_eq_false_iff, first, List.mem_singleton]
    exact Ne.symm differ
  have second := (Inventory.queryLoad fetcher id middle).map_remoteId absent fetched decodes
  rw [first] at second
  have distinct : ([query.id] ++ [query.id]).Nodup := second ▸ once.apart.queries
  exact absurd distinct (by simp)

/-- So is a dashboard, even if a query that it shows cannot be loaded. -/
theorem dashboard_id_of_loadedOnce {fetcher : Fetcher} {id : String}
    (once : LoadedOnce [⟨fetcher, .dashboard, id⟩, ⟨fetcher, .dashboard, id⟩])
    {dashboard : Dashboard} (fetched : (fetcher.dashboard id).result = .ok dashboard)
    (decodes : dashboard.Decodes) : dashboard.id = id := by
  by_contra differ
  let middle := Inventory.empty.afterCall ⟨fetcher, .dashboard, id⟩
  have first : middle.dashboards.map Entry.remoteId = [dashboard.id] :=
    (Inventory.dashboardLoad fetcher id Inventory.empty).map_remoteId rfl fetched decodes
  have absent : middle.hasDashboard id = false := by
    rw [Inventory.hasDashboard, any_remoteId_eq_false_iff, first, List.mem_singleton]
    exact Ne.symm differ
  have second := (Inventory.dashboardLoad fetcher id middle).map_remoteId absent fetched decodes
  rw [first] at second
  have distinct : ([dashboard.id] ++ [dashboard.id]).Nodup := second ▸ once.apart.dashboards
  exact absurd distinct (by simp)

/-- **Objects are loaded once exactly when the services answer with the ids asked for**, as far as
their answers can be loaded at all. -/
theorem loadedOnce_iff_echoesDecoded (services : Set Fetcher) :
    (∀ calls : List LoadCall, (∀ call ∈ calls, call.fetcher ∈ services) → LoadedOnce calls) ↔
      ∀ fetcher ∈ services, fetcher.EchoesDecoded := by
  constructor
  · intro once fetcher member
    have twice (kind : RemoteKind) (id : String) :
        LoadedOnce [⟨fetcher, kind, id⟩, ⟨fetcher, kind, id⟩] := by
      refine once _ fun call inside => ?_
      rcases List.mem_cons.1 inside with rfl | inside
      · exact member
      · exact List.mem_singleton.1 inside ▸ member
    exact
      { dashboard := dashboard_id_of_loadedOnce (twice .dashboard _)
        query := query_id_of_loadedOnce (twice .query _) }
  · intro echoes calls served
    exact loadedOnce_of_echoesDecoded fun call member => echoes call.fetcher (served call member)

/-- A service that answers every id with one query, whose own id is `8`. -/
def renamingFetcher : Fetcher where
  dashboard id := ⟨[.fetching .dashboard id], .error (.service (.notFound .dashboard id))⟩
  query id := ⟨[.fetching .query id], .ok
    { id := "8", dataSourceId := "", name := "Sales", description := none, text := "",
      schedule := none, options := ⟨[]⟩, tags := [],
      visualizations := [.obj [("id", .int 11), ("type", .str "chart")]] }⟩

/-- Two loads of the query `7` add the query `8` twice. -/
theorem loadedOnce_fails_renaming : ¬ ∀ calls : List LoadCall, LoadedOnce calls := by
  intro once
  have apart := (once [⟨renamingFetcher, .query, "7"⟩, ⟨renamingFetcher, .query, "7"⟩]).apart
  exact absurd apart.queries (by decide +kernel)

end DashboardExport
