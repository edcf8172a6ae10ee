import Mathlib.Data.List.Forall2

/-!
# Computations that can fail

When a computation made of steps succeeds, each of its steps does, and the result is put
together from theirs.
-/

set_option autoImplicit false

namespace DashboardExport

/-- A computation in two steps succeeds exactly when both steps do. -/
theorem except_bind_eq_ok_iff {ε α β : Type} {first : Except ε α} {next : α → Except ε β}
    {result : β} :
    first >>= next = .ok result ↔ ∃ value, first = .ok value ∧ next value = .ok result := by
  cases first with
  | error failure => simp [bind, Except.bind]
  | ok value => simp [bind, Except.bind]

/-- A computation in two steps fails when the first step does, or when the second one does after
it. -/
theorem except_bind_eq_error_iff {ε α β : Type} {first : Except ε α} {next : α → Except ε β}
    {failure : ε} :
    first >>= next = .error failure ↔
      first = .error failure ∨ ∃ value, first = .ok value ∧ next value = .error failure := by
  cases first with
  | error other => simp [bind, Except.bind]
  | ok value => simp [bind, Except.bind]

theorem except_pure_eq_ok_iff {ε α : Type} {value result : α} :
    (pure value : Except ε α) = .ok result ↔ result = value :=
  ⟨fun made => (Except.ok.inj made).symm, fun same => congrArg Except.ok same.symm⟩

theorem exists_ok_of_isSome {ε α : Type} {computation : Except ε α}
    (some : computation.toOption.isSome = true) : ∃ value, computation = .ok value := by
  cases computation with
  | error failure => cases some
  | ok value => exact ⟨value, rfl⟩

/-- A computation succeeds exactly when it does not fail. -/
theorem exists_ok_iff {ε α : Type} {computation : Except ε α} :
    (∃ value, computation = .ok value) ↔ ∀ failure, computation ≠ .error failure := by
  cases computation with
  | error failure => simp
  | ok value => simp

/-- A list is worked through without a failure exactly when each of its items is. -/
theorem mapM_eq_ok_iff {ε α β : Type} {step : α → Except ε β} {items : List α}
    {results : List β} :
    items.mapM step = .ok results ↔
      List.Forall₂ (fun item result => step item = .ok result) items results := by
  induction items generalizing results with
  | nil =>
      rw [List.mapM_nil, List.forall₂_nil_left_iff]
      exact ⟨fun same => by cases same; rfl, fun same => by rw [same]; rfl⟩
  | cons item rest ih =>
      rw [List.mapM_cons, except_bind_eq_ok_iff, List.forall₂_cons_left_iff]
      constructor
      · rintro ⟨result, first, read⟩
        obtain ⟨others, later, read⟩ := except_bind_eq_ok_iff.1 read
        cases read
        exact ⟨result, others, first, ih.1 later, rfl⟩
      · rintro ⟨result, others, first, later, rfl⟩
        exact ⟨result, first, except_bind_eq_ok_iff.2 ⟨others, ih.2 later, rfl⟩⟩

/-- The result of an item stands among the results. -/
theorem exists_of_mapM_eq_ok {ε α β : Type} {step : α → Except ε β} {items : List α}
    {results : List β} (done : items.mapM step = .ok results) {item : α} (member : item ∈ items) :
    ∃ before result after, step item = .ok result ∧ results = before ++ result :: after := by
  have matched := mapM_eq_ok_iff.1 done
  induction matched with
  | nil => cases member
  | cons first later ih =>
      rcases List.mem_cons.1 member with rfl | inRest
      · exact ⟨[], _, _, first, rfl⟩
      · obtain ⟨before, result, after, here, rfl⟩ := ih (mapM_eq_ok_iff.2 later) inRest
        exact ⟨_ :: before, result, after, here, rfl⟩

/-- **A list cannot be worked through exactly when an item cannot that comes after items that
can.** -/
theorem mapM_eq_error_iff {ε α β : Type} {step : α → Except ε β} {items : List α} {failure : ε} :
    items.mapM step = .error failure ↔
      ∃ before item after, items = before ++ item :: after ∧
        (∀ other ∈ before, ∃ result, step other = .ok result) ∧ step item = .error failure := by
  constructor
  · intro failed
    induction items with
    | nil => cases failed
    | cons item rest ih =>
        rw [List.mapM_cons, except_bind_eq_error_iff] at failed
        rcases failed with here | ⟨result, done, later⟩
        · exact ⟨[], item, rest, rfl, fun _ => nofun, here⟩
        · rcases except_bind_eq_error_iff.1 later with later | ⟨_, _, never⟩
          · obtain ⟨before, other, after, rfl, each, fails⟩ := ih later
            refine ⟨item :: before, other, after, rfl, ?_, fails⟩
            exact List.forall_mem_cons.2 ⟨⟨result, done⟩, each⟩
          · cases never
  · rintro ⟨before, item, after, rfl, each, failed⟩
    induction before with
    | nil =>
        rw [List.nil_append, List.mapM_cons, failed]
        rfl
    | cons first rest ih =>
        obtain ⟨⟨result, done⟩, each⟩ := List.forall_mem_cons.1 each
        rw [List.cons_append, List.mapM_cons, except_bind_eq_error_iff]
        exact .inr ⟨result, done, except_bind_eq_error_iff.2 (.inl (ih each))⟩

/-- When a list cannot be worked through, one of its items cannot. -/
theorem exists_mem_of_mapM_eq_error {ε α β : Type} {step : α → Except ε β} {items : List α}
    {failure : ε} (failed : items.mapM step = .error failure) :
    ∃ item ∈ items, step item = .error failure := by
  induction items with
  | nil => cases failed
  | cons item rest ih =>
      rw [List.mapM_cons] at failed
      rcases except_bind_eq_error_iff.1 failed with here | ⟨_, _, later⟩
      · exact ⟨item, List.mem_cons_self, here⟩
      · rcases except_bind_eq_error_iff.1 later with later | ⟨_, _, never⟩
        · obtain ⟨other, member, fails⟩ := ih later
          exact ⟨other, List.mem_cons_of_mem item member, fails⟩
        · cases never

/-- What is matched item by item has an item for each of its members. -/
theorem exists_mem_of_forall₂ {α β : Type} {relation : α → β → Prop} {items : List α}
    {results : List β} (matched : List.Forall₂ relation items results) {result : β}
    (member : result ∈ results) : ∃ item ∈ items, relation item result := by
  induction matched with
  | nil => cases member
  | cons first _ ih =>
      rcases List.mem_cons.1 member with rfl | inRest
      · exact ⟨_, List.mem_cons_self, first⟩
      · obtain ⟨item, inside, related⟩ := ih inRest
        exact ⟨item, List.mem_cons_of_mem _ inside, related⟩

/-- A result is the result of an item. -/
theorem exists_mem_of_mapM_eq_ok {ε α β : Type} {step : α → Except ε β} {items : List α}
    {results : List β} (done : items.mapM step = .ok results) {result : β}
    (member : result ∈ results) : ∃ item ∈ items, step item = .ok result :=
  exists_mem_of_forall₂ (mapM_eq_ok_iff.1 done) member

theorem exists_mem_of_mapM_eq_some {α β : Type} {step : α → Option β} {items : List α}
    {results : List β} (done : items.mapM step = some results) {result : β}
    (member : result ∈ results) : ∃ item ∈ items, step item = some result := by
  induction items generalizing results with
  | nil =>
      cases done
      cases member
  | cons item rest ih =>
      rw [List.mapM_cons] at done
      obtain ⟨first, here, done⟩ := Option.bind_eq_some_iff.1 done
      obtain ⟨others, later, done⟩ := Option.bind_eq_some_iff.1 done
      cases done
      rcases List.mem_cons.1 member with rfl | inRest
      · exact ⟨item, List.mem_cons_self, here⟩
      · obtain ⟨other, inside, made⟩ := ih later inRest
        exact ⟨other, List.mem_cons_of_mem item inside, made⟩

/-- A list is worked through by working through what stands before an item, the item, and the
rest. -/
theorem mapM_append_cons_eq_ok_iff {ε α β : Type} {step : α → Except ε β} {before after : List α}
    {item : α} {results : List β} :
    (before ++ item :: after).mapM step = .ok results ↔
      ∃ first result last, before.mapM step = .ok first ∧ step item = .ok result ∧
        after.mapM step = .ok last ∧ results = first ++ result :: last := by
  rw [List.mapM_append, List.mapM_cons, except_bind_eq_ok_iff]
  constructor
  · rintro ⟨first, done, later⟩
    obtain ⟨_, here, later⟩ := except_bind_eq_ok_iff.1 later
    obtain ⟨result, made, here⟩ := except_bind_eq_ok_iff.1 here
    obtain ⟨last, others, here⟩ := except_bind_eq_ok_iff.1 here
    cases here
    cases later
    exact ⟨first, result, last, done, made, others, rfl⟩
  · rintro ⟨first, result, last, done, made, others, rfl⟩
    refine ⟨first, done, except_bind_eq_ok_iff.2 ⟨result :: last, ?_, rfl⟩⟩
    exact except_bind_eq_ok_iff.2 ⟨result, made, except_bind_eq_ok_iff.2 ⟨last, others, rfl⟩⟩

/-- A list can be matched when each of its items can. -/
theorem exists_forall₂_iff {α β : Type} {relation : α → β → Prop} {items : List α} :
    (∃ results, List.Forall₂ relation items results) ↔
      ∀ item ∈ items, ∃ result, relation item result := by
  induction items with
  | nil => exact ⟨fun _ _ => nofun, fun _ => ⟨[], .nil⟩⟩
  | cons item rest ih =>
      rw [List.forall_mem_cons, ← ih]
      constructor
      · rintro ⟨_, matched⟩
        obtain ⟨result, results, first, later, -⟩ := List.forall₂_cons_left_iff.1 matched
        exact ⟨⟨result, first⟩, results, later⟩
      · rintro ⟨⟨result, first⟩, results, later⟩
        exact ⟨result :: results, .cons first later⟩

/-- What is found for each pair of two matched lists makes up a third list. -/
theorem exists_forall₂_of_forall₂ {α β γ : Type} {relation : α → β → Prop}
    {left : β → γ → Prop} {right : α → γ → Prop} {items : List α} {results : List β}
    (matched : List.Forall₂ relation items results)
    (each : ∀ item ∈ items, ∀ result, relation item result →
      ∃ found, left result found ∧ right item found) :
    ∃ all, List.Forall₂ left results all ∧ List.Forall₂ right items all := by
  induction matched with
  | nil => exact ⟨[], .nil, .nil⟩
  | cons first _ ih =>
      obtain ⟨found, here, there⟩ := each _ List.mem_cons_self _ first
      obtain ⟨others, later, further⟩ := ih fun item member =>
        each item (List.mem_cons_of_mem _ member)
      exact ⟨found :: others, .cons here later, .cons there further⟩

/-- A list can be worked through when each of its items can. -/
theorem exists_mapM_eq_ok_iff {ε α β : Type} {step : α → Except ε β} {items : List α} :
    (∃ results, items.mapM step = .ok results) ↔
      ∀ item ∈ items, ∃ result, step item = .ok result := by
  simp only [mapM_eq_ok_iff]
  exact exists_forall₂_iff

theorem except_map_eq_ok_iff {ε α β : Type} {computation : Except ε α} {change : α → β}
    {result : β} :
    computation.map change = .ok result ↔
      ∃ value, computation = .ok value ∧ change value = result := by
  cases computation with
  | error failure => simp [Except.map]
  | ok value => simp [Except.map]

theorem except_map_eq_error_iff {ε α β : Type} {computation : Except ε α} {change : α → β}
    {failure : ε} :
    computation.map change = .error failure ↔ computation = .error failure := by
  cases computation with
  | error other => simp [Except.map]
  | ok value => simp [Except.map]

/-- Results may be changed one by one or all at the end. -/
theorem mapM_map {ε α β γ : Type} (step : α → Except ε β) (change : β → γ) (items : List α) :
    (items.mapM fun item => (step item).map change) = (items.mapM step).map (List.map change) := by
  induction items with
  | nil => rfl
  | cons item rest ih =>
      rw [List.mapM_cons, List.mapM_cons, ih]
      cases step item with
      | error failure => rfl
      | ok result =>
          cases rest.mapM step with
          | error failure => rfl
          | ok results => rfl

theorem except_mapError_eq_error_iff {ε δ α : Type} {computation : Except ε α} {change : ε → δ}
    {failure : δ} :
    computation.mapError change = .error failure ↔
      ∃ first, computation = .error first ∧ change first = failure := by
  cases computation with
  | error other => simp [Except.mapError]
  | ok value => simp [Except.mapError]

theorem except_mapError_eq_ok_iff {ε δ α : Type} {computation : Except ε α} {change : ε → δ}
    {result : α} : computation.mapError change = .ok result ↔ computation = .ok result := by
  cases computation with
  | error failure => simp [Except.mapError]
  | ok value => simp [Except.mapError]

end DashboardExport
