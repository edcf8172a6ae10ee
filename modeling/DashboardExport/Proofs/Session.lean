import DashboardExport.Session

/-!
# How sessions end

A session gives a value when it ends with it; then only the state that it leaves matters
(`Gives`), and not what it told.  A session in steps gives a value exactly when each of
its steps gives one, from the state that the step before leaves (`gives_bind_iff`).

A session that fails leaves the state in which it stopped (`Fails`): that of its first step,
if this one fails, or else that of the steps behind it (`fails_bind_iff`).
-/

set_option autoImplicit false

namespace DashboardExport.Session

variable {σ τ α β : Type} {s last : σ}

theorem done_bind (value : α) (next : α → Session σ β) :
    Session.done value >>= next = next value :=
  done_andThen value next

/-- How a session ends, put together from the parts. -/
theorem eq_of_result {session : Session σ α} {result : Except Failure α}
    (ended : (session s).result = result) :
    session s = ⟨(session s).state, (session s).events, result⟩ := by
  rw [← ended]

/-- A session that starts in a state ends with a value and leaves another state. -/
def Gives (session : Session σ α) (s last : σ) (value : α) : Prop :=
  ∃ events, session s = ⟨last, events, .ok value⟩

theorem Gives.state {session : Session σ α} {value : α} (gives : session.Gives s last value) :
    (session s).state = last := by
  obtain ⟨_, ended⟩ := gives
  rw [ended]

theorem Gives.result {session : Session σ α} {value : α} (gives : session.Gives s last value) :
    (session s).result = .ok value := by
  obtain ⟨_, ended⟩ := gives
  rw [ended]

theorem gives_iff {session : Session σ α} {value : α} :
    session.Gives s last value ↔ (session s).state = last ∧ (session s).result = .ok value := by
  constructor
  · exact fun gives => ⟨gives.state, gives.result⟩
  · rintro ⟨rfl, succeeded⟩
    exact ⟨(session s).events, eq_of_result succeeded⟩

/-- **A session in two steps succeeds when both steps do.** -/
theorem gives_bind_iff {first : Session σ α} {next : α → Session σ β} {value : β} :
    (first >>= next).Gives s last value ↔
      ∃ middle part, first.Gives s middle part ∧ (next part).Gives middle last value := by
  constructor
  · intro gives
    rcases started : first s with ⟨middle, earlier, failure | part⟩
    · rw [gives_iff, bind_of_error started] at gives
      cases gives.2
    · rw [gives_iff, bind_of_ok started] at gives
      exact ⟨middle, part, ⟨earlier, started⟩, gives_iff.2 gives⟩
  · rintro ⟨middle, part, ⟨earlier, started⟩, rest⟩
    rw [gives_iff, bind_of_ok started]
    exact gives_iff.1 rest

theorem gives_done_iff {value result : α} :
    (Session.done value).Gives s last result ↔ last = s ∧ result = value := by
  constructor
  · rintro ⟨_, ended⟩
    cases ended
    exact ⟨rfl, rfl⟩
  · rintro ⟨rfl, rfl⟩
    exact ⟨[], rfl⟩

theorem gives_state_iff {value : σ} : Session.state.Gives s last value ↔ last = s ∧ value = s := by
  constructor
  · rintro ⟨_, ended⟩
    cases ended
    exact ⟨rfl, rfl⟩
  · rintro ⟨rfl, rfl⟩
    exact ⟨[], rfl⟩

theorem gives_tell_iff {event : Event} {value : Unit} :
    (Session.tell event).Gives s last value ↔ last = s := by
  constructor
  · rintro ⟨_, ended⟩
    cases ended
    rfl
  · rintro rfl
    exact ⟨[event], rfl⟩

theorem gives_change_iff {f : σ → σ} {value : Unit} :
    (Session.change f).Gives s last value ↔ last = f s := by
  constructor
  · rintro ⟨_, ended⟩
    cases ended
    rfl
  · rintro rfl
    exact ⟨[], rfl⟩

theorem gives_ofExcept_iff {computed : Except Failure α} {value : α} :
    (Session.ofExcept computed).Gives s last value ↔ last = s ∧ computed = .ok value := by
  constructor
  · rintro ⟨_, ended⟩
    cases ended
    exact ⟨rfl, rfl⟩
  · rintro ⟨rfl, rfl⟩
    exact ⟨[], rfl⟩

/-- A session within another one leaves the state of that one. -/
theorem gives_within_iff {start : τ} {inner : Session τ α} {result : τ × α} :
    (Session.within start inner : Session σ (τ × α)).Gives s last result ↔
      last = s ∧ inner.Gives start result.1 result.2 := by
  rw [Gives, Gives, Session.within]
  rcases inner start with ⟨final, events, failure | value⟩
  · simp
  · simp [Prod.ext_iff, eq_comm]

/-! ## Failures -/

/-- A session that starts in a state fails and leaves another state. -/
def Fails (session : Session σ α) (s last : σ) (failure : Failure) : Prop :=
  ∃ events, session s = ⟨last, events, .error failure⟩

/-- **A session in two steps fails when the first step does, or the second one after it.** -/
theorem fails_bind_iff {first : Session σ α} {next : α → Session σ β} {failure : Failure} :
    (first >>= next).Fails s last failure ↔
      first.Fails s last failure ∨
        ∃ middle part, first.Gives s middle part ∧ (next part).Fails middle last failure := by
  rcases started : first s with ⟨middle, earlier, stopped | part⟩
  · simp [Fails, Gives, bind_of_error started, started]
  · rcases ended : next part middle with ⟨final, later, result⟩
    simp only [Fails, Gives, bind_of_ok started, started, ended, Ending.mk.injEq,
      Except.ok.injEq, reduceCtorEq, and_false, exists_false, false_or]
    constructor
    · rintro ⟨_, rfl, _, rfl⟩
      exact ⟨middle, part, ⟨earlier, rfl, rfl, rfl⟩, later, by rw [ended]⟩
    · rintro ⟨_, _, ⟨_, rfl, _, rfl⟩, _, same⟩
      rw [ended] at same
      cases same
      exact ⟨_, rfl, rfl, rfl⟩

theorem not_fails_done {value : α} {failure : Failure} :
    ¬ (Session.done value : Session σ α).Fails s last failure := by
  rintro ⟨_, ended⟩
  cases ended

theorem not_fails_tell {event : Event} {failure : Failure} :
    ¬ (Session.tell event : Session σ Unit).Fails s last failure := by
  rintro ⟨_, ended⟩
  cases ended

theorem not_fails_change {f : σ → σ} {failure : Failure} :
    ¬ (Session.change f).Fails s last failure := by
  rintro ⟨_, ended⟩
  cases ended

theorem fails_ofExcept_iff {computed : Except Failure α} {failure : Failure} :
    (Session.ofExcept computed).Fails s last failure ↔ last = s ∧ computed = .error failure := by
  constructor
  · rintro ⟨_, ended⟩
    cases ended
    exact ⟨rfl, rfl⟩
  · rintro ⟨rfl, rfl⟩
    exact ⟨[], rfl⟩

/-- A session within another one leaves the state of that one when it fails, too. -/
theorem fails_within_iff {start : τ} {inner : Session τ α} {failure : Failure} :
    (Session.within start inner : Session σ (τ × α)).Fails s last failure ↔
      last = s ∧ (inner start).result = .error failure := by
  rw [Fails, Session.within]
  rcases inner start with ⟨final, events, stopped | value⟩
  · simp [eq_comm]
  · simp

end DashboardExport.Session
