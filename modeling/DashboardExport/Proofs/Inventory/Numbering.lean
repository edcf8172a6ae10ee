import DashboardExport.Proofs.Inventory.ResourceNames
import DashboardExport.Proofs.Session

/-!
# Numbered visualizations

A query that is loaded gives names to its visualizations by their types alone: a type that
occurs once stands in the name as it is, and one that occurs more often with the number of
the visualizations of that type that come before (`Named`).

So the names of one query are different exactly when none of its types that occur once is
written like a numbered form of a type that occurs more often (`loadQuery_names`).  Both
halves are about every query that can be loaded, whatever the inventory holds already.
-/

set_option autoImplicit false

namespace DashboardExport

open Naming Service

/-- The types of visualizations, in lower case and in order. -/
def lowerTypes (entries : List (Entry Visualization)) : List String :=
  entries.map fun entry => entry.object.lowerType

/-- Visualizations are named for a query and for their types.  A type that occurs more than once
is numbered by its occurrences, from zero on. -/
structure Named (queryName : String) (entries : List (Entry Visualization)) : Prop where
  single : ∀ {position : Nat} {entry : Entry Visualization}, entries[position]? = some entry →
    (lowerTypes entries).count entry.object.lowerType = 1 →
    entry.resourceName = queryName ++ "_" ++ entry.object.lowerType
  repeated : ∀ {position : Nat} {entry : Entry Visualization}, entries[position]? = some entry →
    (lowerTypes entries).count entry.object.lowerType ≠ 1 →
    entry.resourceName = queryName ++ "_" ++ entry.object.lowerType ++ "_" ++
      toString ((lowerTypes (entries.take position)).count entry.object.lowerType)

/-- The types of the entries are those of the query's visualizations. -/
theorem lowerTypes_of_visualizationEntries {query : Entry Query}
    {entries : List (Entry Visualization)} (read : visualizationEntries query = .ok entries) :
    lowerTypes entries = query.object.visualizationTypes := by
  obtain ⟨visualizations, owned, read⟩ := except_bind_eq_ok_iff.1 read
  cases read
  have enough : visualizations.length ≤ (visualizationNames query.resourceName
      (visualizations.map Visualization.lowerType)).length := by
    rw [length_visualizationNames, List.length_map]
  have kept := congrArg (List.map Visualization.lowerType) (List.map_fst_zip enough)
  rw [List.zip, List.map_zipWith, List.map_zipWith] at kept
  rw [Query.visualizationTypes, owned, lowerTypes, List.map_zipWith]
  exact kept

/-- The labels of the types tell the names of the entries. -/
theorem named_of_resourceNames {queryName : String} {entries : List (Entry Visualization)}
    (names : entries.map Entry.resourceName =
      (labels (lowerTypes entries)).map fun label => queryName ++ "_" ++ label) :
    Named queryName entries := by
  have labelled {position : Nat} {entry : Entry Visualization}
      (here : entries[position]? = some entry) :
      entry.resourceName = queryName ++ "_" ++ label entry.object.lowerType
        (lowerTypes (entries.take position)) (lowerTypes entries) := by
    have placed := congrArg (·[position]?) names
    simp only [List.getElem?_map, getElem?_labels, lowerTypes, here, Option.map_some,
      Option.some.injEq, ← List.map_take] at placed
    exact placed
  constructor
  · intro position entry here once
    rw [labelled here, label, if_pos once]
  · intro position entry here often
    rw [labelled here, label, if_neg often, numbered]
    simp only [String.append_assoc]

/-- **A query that is loaded numbers its repeated types.**  A query that is not there yet, that the
service answers with and all of whose visualizations decode, joins the inventory with an entry for
each of them, in order.  The entries are named for the query and for their types, and their names
are different exactly when no type that occurs once is a numbered form of one that occurs more
often. -/
theorem loadQuery_names {fetcher : Fetcher} {id : String} {inventory : Inventory} {query : Query}
    (absent : inventory.hasQuery id = false) (fetched : (fetcher.query id).result = .ok query)
    (decodes : query.Decodes) :
    ∃ entries, (Inventory.loadQuery fetcher id).Gives inventory
        (inventory.addQuery (inventory.queryEntry query) entries) () ∧
      List.Forall₂ (VisualizationOf (inventory.queryEntry query)) query.visualizations entries ∧
      Named (inventory.queryEntry query).resourceName entries ∧
      ((entries.map Entry.resourceName).Nodup ↔
        ¬ ∃ repeated single number, 2 ≤ (lowerTypes entries).count repeated ∧
          number < (lowerTypes entries).count repeated ∧
          (lowerTypes entries).count single = 1 ∧
          single = repeated ++ "_" ++ toString number) := by
  obtain ⟨entries, read⟩ :=
    (@exists_visualizationEntries_iff (inventory.queryEntry query)).2 decodes
  have names : entries.map Entry.resourceName = (labels (lowerTypes entries)).map
      fun label => (inventory.queryEntry query).resourceName ++ "_" ++ label := by
    rw [lowerTypes_of_visualizationEntries read]
    exact resourceNames_of_visualizationEntries read
  have joins : (Inventory.loadQuery fetcher id).Gives inventory
      (inventory.addQuery (inventory.queryEntry query) entries) () := by
    have load := Inventory.queryLoad fetcher id inventory
    generalize ended : Inventory.loadQuery fetcher id inventory = ending at load
    cases load with
    | known present => rw [present] at absent; cases absent
    | unfetched _ failed => rw [failed] at fetched; cases fetched
    | undecodable _ answered refused =>
        cases answered.symm.trans fetched
        cases refused.symm.trans read
    | added _ answered decoded =>
        cases answered.symm.trans fetched
        cases decoded.symm.trans read
        exact ⟨_, ended⟩
  refine ⟨entries, joins, visualizationOf_of_visualizationEntries read,
    named_of_resourceNames names, ?_⟩
  rw [names, List.nodup_map_iff (joined_injective _)]
  exact labels_nodup_iff (lowerTypes entries)

/-- A query with charts, one of which has a type that is written like a numbered form of the
others' type. -/
def mixedQuery : Query :=
  { id := "q", dataSourceId := "", name := "Sales", description := none, text := "",
    schedule := none, options := ⟨[]⟩, tags := [],
    visualizations := ["Chart", "chart_1", "CHART", "table"].map fun type =>
      .obj [("id", .int 1), ("type", .str type)] }

/-- The chart with the number one has the name of the chart whose type is written so. -/
theorem loadQuery_names_mixed :
    Inventory.empty.hasQuery "q" = false ∧
      ((servingFetcher [] [mixedQuery]).query "q").result = .ok mixedQuery ∧
      mixedQuery.Decodes ∧
      ∃ entries, Named "sales" entries ∧
        entries.map Entry.resourceName =
          ["sales_chart_0", "sales_chart_1", "sales_chart_1", "sales_table"] ∧
        ∃ repeated single number, 2 ≤ (lowerTypes entries).count repeated ∧
          number < (lowerTypes entries).count repeated ∧
          (lowerTypes entries).count single = 1 ∧
          single = repeated ++ "_" ++ toString number := by
  have absent : Inventory.empty.hasQuery "q" = false := rfl
  have fetched : ((servingFetcher [] [mixedQuery]).query "q").result = .ok mixedQuery := by
    decide +kernel
  have decodes : mixedQuery.Decodes :=
    (@exists_visualizationEntries_iff (Inventory.empty.queryEntry mixedQuery)).1
      (exists_ok_of_isSome (by decide +kernel))
  obtain ⟨entries, joins, _, named, distinct⟩ := loadQuery_names absent fetched decodes
  have own : (Inventory.loadQuery (servingFetcher [] [mixedQuery]) "q"
      Inventory.empty).state.visualizations = entries :=
    congrArg Inventory.visualizations joins.state
  have names : entries.map Entry.resourceName =
      ["sales_chart_0", "sales_chart_1", "sales_chart_1", "sales_table"] := by
    rw [← own]
    decide +kernel
  have resourceName : (Inventory.empty.queryEntry mixedQuery).resourceName = "sales" := by
    decide +kernel
  rw [resourceName] at named
  refine ⟨absent, fetched, decodes, entries, named, names, ?_⟩
  by_contra none
  have apart := distinct.2 none
  rw [names] at apart
  exact absurd apart (by decide)

end DashboardExport
