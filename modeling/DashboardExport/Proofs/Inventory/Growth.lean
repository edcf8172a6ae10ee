import DashboardExport.Proofs.Inventory.Loads
import Mathlib.Logic.Relation

/-!
# Reached inventories

An inventory only ever grows by an entry with its parts: a query with its
visualizations, or a dashboard with its widgets (`Growth`).  Whatever a load does, and
whether it fails or not, it leaves an inventory that such growths lead to
(`load_growths`).  So a property holds of every reached inventory when it holds of the
empty one and every growth keeps it (`reached_induction`).

The loads of a run may meet a service that answers differently from load to load: each
call names the service it is made to.
-/

set_option autoImplicit false

namespace DashboardExport

open Service

namespace Inventory

/-- An object joins an inventory with its parts, once all of them are decoded. -/
inductive Growth : Inventory → Inventory → Prop where
  | query (inventory : Inventory) (query : Query) {visualizations : List (Entry Visualization)}
      (decoded : visualizationEntries (inventory.queryEntry query) = .ok visualizations) :
      Growth inventory (inventory.addQuery (inventory.queryEntry query) visualizations)
  | dashboard (inventory : Inventory) (dashboard : Dashboard) {widgets : List (Entry Widget)}
      (decoded : widgetEntries (inventory.dashboardEntry dashboard) = .ok widgets) :
      Growth inventory (inventory.addDashboard (inventory.dashboardEntry dashboard) widgets)

/-- Any number of growths, one after the other. -/
abbrev Growths : Inventory → Inventory → Prop := Relation.ReflTransGen Growth

variable {fetcher : Fetcher} {inventory : Inventory} {ending : Ending Inventory Unit}

theorem QueryLoad.growths {id : String} (load : QueryLoad fetcher id inventory ending) :
    Growths inventory ending.state := by
  cases load with
  | known _ => exact .refl
  | unfetched _ _ => exact .refl
  | undecodable _ _ _ => exact .refl
  | added _ _ decoded => exact .single (.query inventory _ decoded)

theorem ShownLoad.growths {widget : Widget} (load : ShownLoad fetcher widget inventory ending) :
    Growths inventory ending.state := by
  cases load with
  | unreadable _ => exact .refl
  | nothing _ => exact .refl
  | query _ load => exact load.growths

theorem ShownLoads.growths {widgets : List (Entry Widget)}
    (loads : ShownLoads fetcher widgets inventory ending) : Growths inventory ending.state := by
  induction loads with
  | done _ => exact .refl
  | failed _ load => exact load.growths
  | step load _ ih => exact load.growths.trans ih

theorem DashboardLoad.growths {id : String} (load : DashboardLoad fetcher id inventory ending) :
    Growths inventory ending.state := by
  cases load with
  | known _ => exact .refl
  | unfetched _ _ => exact .refl
  | undecodable _ _ _ => exact .refl
  | admitted _ _ decoded loads =>
      exact .head (.dashboard inventory _ decoded) loads.growths

/-- **A load leaves an inventory that growths lead to**, whether it fails or not. -/
theorem load_growths (fetcher : Fetcher) (kind : RemoteKind) (id : String)
    (inventory : Inventory) : Growths inventory (load fetcher kind id inventory).state := by
  cases kind with
  | dashboard => exact (dashboardLoad fetcher id inventory).growths
  | query => exact (queryLoad fetcher id inventory).growths

end Inventory

/-! ## Runs of loads -/

/-- A call that loads an object: the service as it answers this call, the kind and the id. -/
structure LoadCall where
  fetcher : Fetcher
  kind : RemoteKind
  id : String

namespace Inventory

/-- The inventory that a load leaves, whether it fails or not. -/
def afterCall (inventory : Inventory) (call : LoadCall) : Inventory :=
  (load call.fetcher call.kind call.id inventory).state

/-- The inventory that load calls lead to from the empty one.  A call that fails leaves what it
has loaded, and the next call goes on from there. -/
def reached (calls : List LoadCall) : Inventory := calls.foldl afterCall empty

/-- What an inventory has and every growth keeps, all inventories have that growths lead to. -/
theorem Growths.keep {property : Inventory → Prop} {before after : Inventory}
    (growths : Growths before after)
    (step : ∀ {before after : Inventory}, Growth before after → property before → property after)
    (start : property before) : property after := by
  induction growths with
  | refl => exact start
  | tail _ growth ih => exact step growth ih

theorem foldl_afterCall_growths (calls : List LoadCall) (inventory : Inventory) :
    Growths inventory (calls.foldl afterCall inventory) := by
  induction calls generalizing inventory with
  | nil => exact .refl
  | cons call rest ih =>
      exact (load_growths call.fetcher call.kind call.id inventory).trans (ih _)

/-- **What the empty inventory has and every growth keeps holds of every reached inventory.** -/
theorem reached_induction {property : Inventory → Prop} (start : property empty)
    (step : ∀ {before after : Inventory}, Growth before after → property before → property after)
    (calls : List LoadCall) : property (reached calls) :=
  (foldl_afterCall_growths calls empty).keep step start

/-- Loading one root after the other is a chain of growths as well. -/
theorem loadEach_growths (fetcher : Fetcher) (kind : RemoteKind) (ids : List String)
    (inventory : Inventory) : Growths inventory (loadEach fetcher kind ids inventory).state := by
  induction ids generalizing inventory with
  | nil => exact .refl
  | cons id rest ih =>
      have first := load_growths fetcher kind id inventory
      rw [loadEach]
      rcases ended : load fetcher kind id inventory with ⟨middle, events, _ | _⟩
      · rw [ended] at first
        rw [Session.bind_of_error ended]
        exact first
      · rw [ended] at first
        rw [Session.bind_of_ok ended]
        exact first.trans (ih middle)

end Inventory

/-- A service that holds the given objects and finds them by their ids. -/
def servingFetcher (dashboards : List Dashboard) (queries : List Query) : Fetcher where
  dashboard id := ⟨[.fetching .dashboard id],
    match dashboards.find? fun dashboard => dashboard.id == id with
    | some dashboard => .ok dashboard
    | none => .error (.service (.notFound .dashboard id))⟩
  query id := ⟨[.fetching .query id],
    match queries.find? fun query => query.id == id with
    | some query => .ok query
    | none => .error (.service (.notFound .query id))⟩

end DashboardExport
