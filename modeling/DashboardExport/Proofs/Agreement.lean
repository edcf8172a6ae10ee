import DashboardExport.Session
import Mathlib.Data.List.Forall2

/-!
# Computations that agree

Two computations agree when both succeed with related results, or both fail; why they
fail makes no difference (`Agree`).  Two sessions agree when related states lead them to
related states and to results that agree, whatever they tell (`Session.Alike`).

Agreement is kept when computations are put together in the same way, step by step
(`Agree.bind`, `Agree.mapM`, `Session.Alike.bind`).  So two runs are compared by
comparing the parts that they are made of.
-/

set_option autoImplicit false

namespace DashboardExport

/-! ## Related lists -/

section Lists

variable {α β γ : Type} {relation : α → β → Prop} {items : List α} {items' : List β}

theorem forall₂_map {change : α → β} (each : ∀ item, relation item (change item))
    (items : List α) : List.Forall₂ relation items (items.map change) := by
  rw [List.forall₂_map_right_iff, List.forall₂_same]
  intro item _
  exact each item

theorem any_eq_of_forall₂ {test : α → Bool} {test' : β → Bool}
    (related : List.Forall₂ relation items items')
    (same : ∀ {a b}, relation a b → test a = test' b) : items.any test = items'.any test' := by
  induction related with
  | nil => rfl
  | cons first _ ih => rw [List.any_cons, List.any_cons, same first, ih]

theorem map_eq_of_forall₂ {view : α → γ} {view' : β → γ}
    (related : List.Forall₂ relation items items')
    (same : ∀ {a b}, relation a b → view a = view' b) : items.map view = items'.map view' := by
  induction related with
  | nil => rfl
  | cons first _ ih => rw [List.map_cons, List.map_cons, same first, ih]

/-- The items that pass the same test are related. -/
theorem filter_rel {test : α → Bool} {test' : β → Bool}
    (related : List.Forall₂ relation items items')
    (same : ∀ {a b}, relation a b → test a = test' b) :
    List.Forall₂ relation (items.filter test) (items'.filter test') := by
  refine List.rel_filter ?_ related
  intro a b alike
  exact iff_of_eq (congrArg (· = true) (same alike))

/-- The first items that pass the same test are related. -/
theorem find?_rel {test : α → Bool} {test' : β → Bool}
    (related : List.Forall₂ relation items items')
    (same : ∀ {a b}, relation a b → test a = test' b) :
    Option.Rel relation (items.find? test) (items'.find? test') := by
  induction related with
  | nil => exact .none
  | @cons item item' _ _ first _ ih =>
      rw [List.find?_cons, List.find?_cons, ← same first]
      cases test item with
      | true => exact .some first
      | false => exact ih

end Lists

/-! ## Computations that can fail -/

/-- Both computations succeed with related results, or both fail. -/
inductive Agree {ε δ α β : Type} (relation : α → β → Prop) : Except ε α → Except δ β → Prop where
  | ok {result : α} {result' : β} (related : relation result result') :
      Agree relation (.ok result) (.ok result')
  | error (failure : ε) (failure' : δ) : Agree relation (.error failure) (.error failure')

namespace Agree

variable {ε δ α β γ κ : Type} {relation : α → β → Prop} {relation' : γ → κ → Prop}
  {first : Except ε α} {second : Except δ β}

theorem refl {relation : α → α → Prop} (related : ∀ result, relation result result)
    (computation : Except ε α) : Agree relation computation computation := by
  cases computation with
  | error failure => exact .error failure failure
  | ok result => exact .ok (related result)

theorem imp {weaker : α → β → Prop} (implies : ∀ {a b}, relation a b → weaker a b)
    (agree : Agree relation first second) : Agree weaker first second := by
  cases agree with
  | error failure failure' => exact .error failure failure'
  | ok related => exact .ok (implies related)

/-- **Computations in two steps agree when both steps do.** -/
theorem bind {next : α → Except ε γ} {next' : β → Except δ κ}
    (agree : Agree relation first second)
    (step : ∀ {a b}, relation a b → Agree relation' (next a) (next' b)) :
    Agree relation' (first >>= next) (second >>= next') := by
  cases agree with
  | error failure failure' => exact .error failure failure'
  | ok related => exact step related

theorem map {change : α → γ} {change' : β → κ} (agree : Agree relation first second)
    (step : ∀ {a b}, relation a b → relation' (change a) (change' b)) :
    Agree relation' (first.map change) (second.map change') := by
  cases agree with
  | error failure failure' => exact .error failure failure'
  | ok related => exact .ok (step related)

theorem mapError {ε' δ' : Type} (change : ε → ε') (change' : δ → δ')
    (agree : Agree relation first second) :
    Agree relation (first.mapError change) (second.mapError change') := by
  cases agree with
  | error failure failure' => exact .error (change failure) (change' failure')
  | ok related => exact .ok related

/-- A computation and what its result is changed to. -/
theorem map_right {change : α → β} (each : ∀ result, relation result (change result))
    (computation : Except ε α) : Agree relation computation (computation.map change) := by
  cases computation with
  | error failure => exact .error failure failure
  | ok result => exact .ok (each result)

/-- Lists that are related item by item are worked through with agreement. -/
theorem mapM {items : List α} {items' : List β} {step : α → Except ε γ} {step' : β → Except δ κ}
    (related : List.Forall₂ relation items items')
    (steps : ∀ {a b}, relation a b → Agree relation' (step a) (step' b)) :
    Agree (List.Forall₂ relation') (items.mapM step) (items'.mapM step') := by
  induction related with
  | nil => exact .ok .nil
  | cons first _ ih =>
      rw [List.mapM_cons, List.mapM_cons]
      refine (steps first).bind ?_
      intro result result' here
      refine ih.bind ?_
      intro results results' later
      exact .ok (.cons here later)

/-- Lists that are worked through with the same results give the same list. -/
theorem mapM_eq {items : List α} {items' : List β} {step : α → Except ε γ} {step' : β → Except δ γ}
    (related : List.Forall₂ relation items items')
    (steps : ∀ {a b}, relation a b → Agree Eq (step a) (step' b)) :
    Agree Eq (items.mapM step) (items'.mapM step') := by
  refine (mapM related steps).imp ?_
  intro results results' same
  rw [List.forall₂_eq_eq_eq] at same
  exact same

/-- Computations that agree on equal results have the same value. -/
theorem toOption_eq {second : Except δ α} (agree : Agree Eq first second) :
    first.toOption = second.toOption := by
  cases agree with
  | error _ _ => rfl
  | ok same =>
      subst same
      rfl

end Agree

/-! ## Sessions -/

namespace Session

/-- From related states, both sessions come to related states, and their results agree. -/
def Alike {σ τ α β : Type} (states : σ → τ → Prop) (values : α → β → Prop)
    (first : Session σ α) (second : Session τ β) : Prop :=
  ∀ (s : σ) (t : τ), states s t →
    states (first s).state (second t).state ∧ Agree values (first s).result (second t).result

namespace Alike

variable {σ τ α β γ κ : Type} {states : σ → τ → Prop} {values : α → β → Prop}
  {values' : γ → κ → Prop}

/-- On equal states a session is like itself. -/
theorem refl (session : Session σ α) : Alike Eq Eq session session := by
  rintro s t rfl
  exact ⟨rfl, .refl (fun _ => rfl) _⟩

theorem done {value : α} {value' : β} (related : values value value') :
    Alike states values (Session.done value) (Session.done value') :=
  fun _ _ same => ⟨same, .ok related⟩

theorem tell (event event' : Event) :
    Alike states (fun _ _ => True) (Session.tell event) (Session.tell event') :=
  fun _ _ same => ⟨same, .ok trivial⟩

theorem state : Alike states states Session.state Session.state :=
  fun _ _ same => ⟨same, .ok same⟩

theorem change {f : σ → σ} {g : τ → τ} (step : ∀ {s t}, states s t → states (f s) (g t)) :
    Alike states (fun _ _ => True) (Session.change f) (Session.change g) :=
  fun _ _ same => ⟨step same, .ok trivial⟩

theorem ofExcept {first : Except Failure α} {second : Except Failure β}
    (agree : Agree values first second) :
    Alike states values (Session.ofExcept first) (Session.ofExcept second) :=
  fun _ _ same => ⟨same, agree⟩

theorem ofRefusal {first : Except Refusal α} {second : Except Refusal β}
    (agree : Agree values first second) :
    Alike states values (Session.ofRefusal first) (Session.ofRefusal second) :=
  ofExcept (agree.mapError _ _)

/-- **Sessions in two steps are alike when both steps are.** -/
theorem bind {first : Session σ α} {second : Session τ β} {next : α → Session σ γ}
    {next' : β → Session τ κ} (alike : Alike states values first second)
    (step : ∀ {a b}, values a b → Alike states values' (next a) (next' b)) :
    Alike states values' (first >>= next) (second >>= next') := by
  intro s t same
  obtain ⟨reached, results⟩ := alike s t same
  rcases started : first s with ⟨middle, events, result⟩
  rcases started' : second t with ⟨middle', events', result'⟩
  rw [started, started'] at reached results
  cases results with
  | error failure failure' =>
      rw [bind_of_error started, bind_of_error started']
      exact ⟨reached, .error failure failure'⟩
  | ok related =>
      rw [bind_of_ok started, bind_of_ok started']
      exact step related middle middle' reached

/-- Sessions on states of their own, within others. -/
theorem within {σ' τ' : Type} {states' : σ' → τ' → Prop} {start : σ'} {start' : τ'}
    {first : Session σ' α} {second : Session τ' β} (starts : states' start start')
    (alike : Alike states' values first second) :
    Alike states (fun a b => states' a.1 b.1 ∧ values a.2 b.2) (Session.within start first)
      (Session.within start' second) := by
  intro s t same
  obtain ⟨reached, results⟩ := alike start start' starts
  rw [Session.within, Session.within]
  rcases ended : first start with ⟨final, events, result⟩
  rcases ended' : second start' with ⟨final', events', result'⟩
  rw [ended, ended'] at reached results
  cases results with
  | error failure failure' => exact ⟨same, .error failure failure'⟩
  | ok related => exact ⟨same, .ok ⟨reached, related⟩⟩

end Alike

end Session

end DashboardExport
