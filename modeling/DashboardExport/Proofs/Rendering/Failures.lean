import DashboardExport.Proofs.Decoding.Rejections
import DashboardExport.Proofs.Fallible
import DashboardExport.Rendering.Dashboard

/-!
# Why an object cannot be rendered

A dashboard that cannot be rendered, and a visualization of a query, ends an export in good
order.  What ends the program is the first parameter of a query that is a number and not a
finite one, since it is written as an integer (`renderQuery_unreported_iff`).
-/

set_option autoImplicit false

namespace DashboardExport

open Decoding Rendering
open Hcl (Item)

/-! ## Numbers that are not finite -/

theorem Binary64.truncate?_eq_none_iff {x : Binary64} :
    x.truncate? = none ↔ x.isFinite = false := by
  cases x with
  | nan => exact ⟨fun _ => rfl, fun _ => rfl⟩
  | infinite negative => exact ⟨fun _ => rfl, fun _ => rfl⟩
  | finite negative significand exponent normal => exact ⟨nofun, nofun⟩

/-- The value of a parameter that is a number and not a finite one. -/
def Parameter.nonFinite? (parameter : Parameter) : Option Binary64 :=
  match parameter.value with
  | .number (some x) => if x.isFinite then none else some x
  | _ => none

/-- The first of them in a query. -/
def Query.nonFinite? (query : Query) : Option Binary64 :=
  query.options.parameters.findSome? Parameter.nonFinite?

namespace Rendering

/-- What is wrong with a number that is not finite. -/
def Problem.ofNonFinite (x : Binary64) : Problem :=
  if x = .nan then .notANumber else .infiniteNumber

theorem Problem.reported_ofNonFinite (x : Binary64) : (ofNonFinite x).reported = false := by
  rw [ofNonFinite]
  split <;> rfl

theorem wholeNumber_eq_error_iff {value : Option Binary64} {problem : Problem} :
    wholeNumber value = .error problem ↔
      ∃ x, value = some x ∧ x.isFinite = false ∧ problem = .ofNonFinite x := by
  cases value with
  | none => simp [wholeNumber]
  | some x =>
      cases whole : x.truncate? with
      | none =>
          have fails : wholeNumber (some x) = .error (.ofNonFinite x) := by
            rw [wholeNumber, whole]
            rfl
          rw [fails]
          constructor
          · rintro ⟨⟩
            exact ⟨x, rfl, Binary64.truncate?_eq_none_iff.1 whole, rfl⟩
          · rintro ⟨_, ⟨⟩, _, rfl⟩
            rfl
      | some n =>
          have finite : x.isFinite ≠ false := by
            rw [Ne, ← Binary64.truncate?_eq_none_iff, whole]
            nofun
          simp [wholeNumber, whole, finite]

/-- **A parameter cannot be rendered when it is a number that is not finite.** -/
theorem parameterItem_eq_error_iff {parameter : Parameter} {problem : Problem} :
    parameterItem parameter = .error problem ↔
      ∃ x, parameter.nonFinite? = some x ∧ problem = .ofNonFinite x := by
  have value : parameterItem parameter = .error problem ↔
      valueItems parameter.value = .error problem := by
    rw [parameterItem, except_bind_eq_error_iff]
    exact or_iff_left (by rintro ⟨_, _, never⟩; cases never)
  rw [value, Parameter.nonFinite?]
  cases parameter.value with
  | number value =>
      have whole : valueItems (.number value) = .error problem ↔
          wholeNumber value = .error problem := by
        rw [valueItems, except_bind_eq_error_iff]
        exact or_iff_left (by rintro ⟨_, _, never⟩; cases never)
      rw [whole, wholeNumber_eq_error_iff]
      cases value with
      | none => simp
      | some x => cases x.isFinite <;> simp
  | single kind text => simp [valueItems]
  | choice selection options => simp [valueItems]
  | queryBacked selection queryId => simp [valueItems]

theorem nonFinite?_eq_none_iff {parameter : Parameter} :
    parameter.nonFinite? = none ↔ ∃ item, parameterItem parameter = .ok item := by
  cases rendered : parameterItem parameter with
  | ok item =>
      refine iff_of_true ?_ ⟨item, rfl⟩
      by_contra some
      obtain ⟨x, notFinite⟩ := Option.ne_none_iff_exists'.1 some
      cases rendered.symm.trans (parameterItem_eq_error_iff.2 ⟨x, notFinite, rfl⟩)
  | error problem =>
      obtain ⟨x, notFinite, _⟩ := parameterItem_eq_error_iff.1 rendered
      simp [notFinite]

/-- A query cannot be rendered when one of its parameters cannot. -/
theorem queryItem_eq_error_iff {entry : Entry Query} {problem : Problem} :
    queryItem entry = .error problem ↔
      ∃ x, entry.object.nonFinite? = some x ∧ problem = .ofNonFinite x := by
  have parameters : queryItem entry = .error problem ↔
      entry.object.options.parameters.mapM parameterItem = .error problem := by
    rw [queryItem, except_bind_eq_error_iff]
    refine or_iff_left ?_
    rintro ⟨_, _, never⟩
    cases entry.object.schedule <;> cases never
  simp only [parameters, mapM_eq_error_iff, Query.nonFinite?, List.findSome?_eq_some_iff,
    nonFinite?_eq_none_iff, parameterItem_eq_error_iff]
  constructor
  · rintro ⟨before, item, after, listed, each, x, here, same⟩
    exact ⟨x, ⟨before, item, after, listed, here, each⟩, same⟩
  · rintro ⟨x, ⟨before, item, after, listed, here, each⟩, same⟩
    exact ⟨before, item, after, listed, each, x, here, same⟩

/-! ## Failures that are reported -/

theorem reported_of_optionsText {skipDefaults : Bool} {visualization : Visualization}
    {refusal : Refusal} (failed : optionsText skipDefaults visualization = .error refusal) :
    refusal.reported = true := by
  rw [optionsText, except_map_eq_error_iff, optionsJson] at failed
  split at failed
  · rcases except_bind_eq_error_iff.1 failed with refused | ⟨_, _, never⟩
    · have accepted := TableOptions.rejection?_decode visualization.options
      generalize TableOptions.decode visualization.options = outcome at refused accepted
      cases outcome with
      | value options => cases refused
      | invalid issues =>
          cases refused
          rfl
      | rejected rejection => cases accepted
    · cases never
  · cases failed

theorem reported_of_visualizationItem {skipDefaults : Bool} {query : Entry Query}
    {entry : Entry Visualization} {refusal : Refusal}
    (failed : visualizationItem skipDefaults query entry = .error refusal) :
    refusal.reported = true := by
  rcases except_bind_eq_error_iff.1 failed with options | ⟨_, _, never⟩
  · exact reported_of_optionsText options
  · cases never

theorem reported_of_contentItem {inventory : Inventory} {entry : Entry Widget} {problem : Problem}
    (failed : contentItem inventory entry = .error problem) : problem.reported = true := by
  rw [contentItem] at failed
  split at failed
  · cases failed
  · split at failed
    · cases failed
    · cases failed
      rfl

theorem reported_of_mappingItem {widgetName : String} {mapping : ParameterMapping}
    {problem : Problem} (failed : mappingItem widgetName mapping = .error problem) :
    problem.reported = true := by
  rcases except_bind_eq_error_iff.1 failed with value | ⟨_, _, never⟩
  · rw [mappingValue] at value
    split at value
    · cases value
    · cases value
    · cases value
      rfl
  · cases never

theorem reported_of_widgetItem {inventory : Inventory} {dashboard : Entry Dashboard}
    {entry : Entry Widget} {problem : Problem}
    (failed : widgetItem inventory dashboard entry = .error problem) :
    problem.reported = true := by
  rcases except_bind_eq_error_iff.1 failed with content | ⟨_, _, later⟩
  · exact reported_of_contentItem content
  · rcases except_bind_eq_error_iff.1 later with mappings | ⟨_, _, never⟩
    · obtain ⟨mapping, _, failed⟩ := exists_mem_of_mapM_eq_error mappings
      exact reported_of_mappingItem failed
    · cases never

/-- **A dashboard that cannot be rendered ends an export in good order.** -/
theorem reported_of_renderDashboard {inventory : Inventory} {entry : Entry Dashboard}
    {failure : Failure} (failed : renderDashboard inventory entry = .error failure) :
    failure.reported = true := by
  obtain ⟨problem, listed, rfl⟩ := except_mapError_eq_error_iff.1 failed
  rcases except_bind_eq_error_iff.1 (except_map_eq_error_iff.1 listed) with widgets | ⟨_, _, never⟩
  · obtain ⟨widget, _, stopped⟩ := exists_mem_of_mapM_eq_error widgets
    exact reported_of_widgetItem stopped
  · cases never

/-- **A query ends the program when it has a number that is not finite**, and it does so with the
first one. -/
theorem renderQuery_unreported_iff {skipDefaults : Bool} {inventory : Inventory}
    {entry : Entry Query} {failure : Failure} :
    (renderQuery skipDefaults inventory entry = .error failure ∧ failure.reported = false) ↔
      ∃ x, entry.object.nonFinite? = some x ∧ failure = .rendering (.ofNonFinite x) := by
  rw [renderQuery, except_map_eq_error_iff, queryItems, except_bind_eq_error_iff]
  constructor
  · rintro ⟨own | ⟨_, _, later⟩, unreported⟩
    · obtain ⟨problem, failed, rfl⟩ := except_mapError_eq_error_iff.1 own
      obtain ⟨x, here, rfl⟩ := queryItem_eq_error_iff.1 failed
      exact ⟨x, here, rfl⟩
    · rcases except_bind_eq_error_iff.1 later with visualizations | ⟨_, _, never⟩
      · obtain ⟨refusal, failed, rfl⟩ := except_mapError_eq_error_iff.1 visualizations
        obtain ⟨visualization, _, failed⟩ := exists_mem_of_mapM_eq_error failed
        have reported : (Failure.refused refusal).reported = true :=
          reported_of_visualizationItem failed
        rw [reported] at unreported
        cases unreported
      · cases never
  · rintro ⟨x, here, rfl⟩
    have failed := queryItem_eq_error_iff.2 ⟨x, here, rfl⟩
    exact ⟨.inl (except_mapError_eq_error_iff.2 ⟨_, failed, rfl⟩), Problem.reported_ofNonFinite x⟩

end Rendering

end DashboardExport
