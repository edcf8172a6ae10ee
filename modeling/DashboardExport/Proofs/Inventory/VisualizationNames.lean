import DashboardExport.Inventory.Basic
import DashboardExport.Proofs.Naming

/-!
# The names of visualizations

The name of a visualization is the name of its query, an underscore and a label.  The
label is the type if it occurs once in the query, and otherwise the type with the
number of earlier visualizations of that type (`visualizationNames_eq_map_labels`).

Nothing keeps the labels of a query apart except that they are formed in this way, so
a type that is written like a numbered one can meet it: the labels are different
exactly when no single type is a numbered form of a repeated one
(`labels_nodup_iff`).
-/

set_option autoImplicit false

namespace DashboardExport

open Naming

/-- What the name of a visualization adds to the name of its query. -/
def label (type : String) (earlier all : List String) : String :=
  if all.count type = 1 then type else numbered type (earlier.count type)

/-- The labels of visualizations by their types. -/
def labels (types : List String) : List String :=
  types.mapIdx fun position type => label type (types.take position) types

/-- A single type that is written like a numbered form of a repeated one. -/
def Ambiguous (types : List String) : Prop :=
  ∃ repeated single number, 2 ≤ types.count repeated ∧ number < types.count repeated ∧
    types.count single = 1 ∧ single = numbered repeated number

/-! ## Names as labels -/

theorem visualizationName_eq_label (queryName type : String) (earlier all : List String) :
    visualizationName queryName type earlier all = queryName ++ "_" ++ label type earlier all := by
  by_cases once : all.count type = 1
  · simp only [visualizationName, label, once, if_true]
  · simp only [visualizationName, label, once, if_false, numbered, String.append_assoc]

theorem getElem?_visualizationNamesFrom (queryName : String) (all rest : List String) :
    ∀ (earlier : List String) (position : Nat),
      (visualizationNamesFrom queryName all earlier rest)[position]? =
        rest[position]?.map fun type =>
          visualizationName queryName type (earlier ++ rest.take position) all := by
  induction rest with
  | nil =>
      intro earlier position
      rfl
  | cons type rest ih =>
      intro earlier position
      cases position with
      | zero => simp [visualizationNamesFrom]
      | succ position =>
          rw [visualizationNamesFrom, List.getElem?_cons_succ, ih, List.getElem?_cons_succ,
            List.take_succ_cons, List.append_assoc]
          rfl

/-- **A visualization is named for its query, its type and the earlier ones of its type.** -/
theorem visualizationNames_eq_map_labels (queryName : String) (types : List String) :
    visualizationNames queryName types =
      (labels types).map fun label => queryName ++ "_" ++ label := by
  refine List.ext_getElem? ?_
  intro position
  rw [visualizationNames, getElem?_visualizationNamesFrom, List.getElem?_map, labels,
    List.getElem?_mapIdx, Option.map_map]
  refine congrArg (fun name => Option.map name types[position]?) (funext fun type => ?_)
  rw [visualizationName_eq_label, List.nil_append]
  rfl

theorem length_visualizationNames (queryName : String) (types : List String) :
    (visualizationNames queryName types).length = types.length := by
  rw [visualizationNames_eq_map_labels, List.length_map, labels, List.length_mapIdx]

/-! ## Counting occurrences -/

section Counting

variable {α : Type} [BEq α] [LawfulBEq α] {items : List α} {item : α}

/-- The occurrences before a place that holds an item are not all of its occurrences. -/
theorem count_take_lt_count {position : Nat} (here : items[position]? = some item) :
    (items.take position).count item < items.count item := by
  obtain ⟨inside, same⟩ := List.getElem?_eq_some_iff.1 here
  have split := congrArg (List.count item) (List.take_append_drop position items)
  rw [List.count_append, List.drop_eq_getElem_cons inside, same, List.count_cons_self] at split
  omega

theorem count_take_lt_count_take {first second : Nat} (before : first < second)
    (here : items[first]? = some item) :
    (items.take first).count item < (items.take second).count item := by
  have shorter : (items.take second).take first = items.take first := by
    rw [List.take_take, Nat.min_eq_left (Nat.le_of_lt before)]
  rw [← shorter]
  refine count_take_lt_count ?_
  rw [List.getElem?_take_of_lt before, here]

/-- Every number below the number of occurrences is the number of some occurrence. -/
theorem exists_occurrence {number : Nat} (below : number < items.count item) :
    ∃ position, items[position]? = some item ∧ (items.take position).count item = number := by
  induction items generalizing number with
  | nil => exact absurd below (by simp)
  | cons head rest ih =>
      by_cases same : head = item
      · subst same
        cases number with
        | zero => exact ⟨0, rfl, rfl⟩
        | succ number =>
            rw [List.count_cons_self] at below
            obtain ⟨position, here, counted⟩ := ih (Nat.lt_of_succ_lt_succ below)
            refine ⟨position + 1, here, ?_⟩
            rw [List.take_succ_cons, List.count_cons_self, counted]
      · rw [List.count_cons_of_ne same] at below
        obtain ⟨position, here, counted⟩ := ih below
        refine ⟨position + 1, here, ?_⟩
        rw [List.take_succ_cons, List.count_cons_of_ne same, counted]

end Counting

/-! ## When labels are different -/

theorem getElem?_labels (types : List String) (position : Nat) :
    (labels types)[position]? =
      types[position]?.map fun type => label type (types.take position) types := by
  rw [labels, List.getElem?_mapIdx]

/-- Two visualizations with one label: a single type is a numbered form of a repeated one. -/
theorem ambiguous_of_label_eq {types : List String} {first second : Nat} (before : first < second)
    {type type' : String} (here : types[first]? = some type)
    (there : types[second]? = some type')
    (same : label type (types.take first) types = label type' (types.take second) types) :
    Ambiguous types := by
  have counted := count_take_lt_count here
  have counted' := count_take_lt_count there
  by_cases once : types.count type = 1 <;> by_cases once' : types.count type' = 1
  · simp only [label, once, once', if_true] at same
    subst same
    have later := count_take_lt_count_take before here
    omega
  · simp only [label, once, once', if_true, if_false] at same
    exact ⟨type', type, _, by omega, counted', once, same⟩
  · simp only [label, once, once', if_true, if_false] at same
    exact ⟨type, type', _, by omega, counted, once', same.symm⟩
  · simp only [label, once, once', if_false] at same
    obtain ⟨rfl, numbers⟩ := numbered_eq_numbered_iff.1 same
    have later := count_take_lt_count_take before here
    omega

/-- **The labels of a query are different exactly when no single type is a numbered form of a
repeated one.** -/
theorem labels_nodup_iff (types : List String) : (labels types).Nodup ↔ ¬ Ambiguous types := by
  constructor
  · rintro distinct ⟨repeated, single, number, often, below, once, rfl⟩
    obtain ⟨first, here, counted⟩ := exists_occurrence below
    have occurs : 0 < types.count (numbered repeated number) := by omega
    obtain ⟨second, there, -⟩ := exists_occurrence occurs
    have labelHere : (labels types)[first]? = some (numbered repeated number) := by
      rw [getElem?_labels, here, Option.map_some, label, if_neg (by omega), counted]
    have labelThere : (labels types)[second]? = some (numbered repeated number) := by
      rw [getElem?_labels, there, Option.map_some, label, if_pos once]
    have place := (List.getElem?_inj (List.getElem?_eq_some_iff.1 labelHere).1 distinct).1
      (labelHere.trans labelThere.symm)
    subst place
    exact ne_numbered repeated number (Option.some.inj (here.symm.trans there))
  · intro clear
    refine List.nodup_iff_getElem?_ne_getElem?.2 fun first second before inside same => clear ?_
    have inside' : second < types.length := by rwa [labels, List.length_mapIdx] at inside
    rw [getElem?_labels, getElem?_labels, List.getElem?_eq_getElem (Nat.lt_trans before inside'),
      List.getElem?_eq_getElem inside'] at same
    exact ambiguous_of_label_eq before (List.getElem?_eq_getElem _) (List.getElem?_eq_getElem _)
      (Option.some.inj same)

end DashboardExport
