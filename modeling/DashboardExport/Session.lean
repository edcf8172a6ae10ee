import DashboardExport.Event

/-!
# Sessions

A session works on a state, tells events, and ends with a value or a failure.  A
failure keeps the state it is reached in and the events told so far: that is what
a failed run leaves behind.
-/

set_option autoImplicit false

namespace DashboardExport

/-- What a session leaves behind. -/
structure Ending (σ α : Type) where
  state : σ
  events : List Event
  result : Except Failure α

/-- A session that works on a state and ends with a value or a failure. -/
def Session (σ α : Type) : Type := σ → Ending σ α

namespace Session

variable {σ τ α β : Type}

/-- The session that ends at once. -/
def done (value : α) : Session σ α := fun state => ⟨state, [], .ok value⟩

/-- A session followed by another, unless it fails. -/
def andThen (first : Session σ α) (next : α → Session σ β) : Session σ β := fun state =>
  match first state with
  | ⟨middle, events, .error failure⟩ => ⟨middle, events, .error failure⟩
  | ⟨middle, events, .ok value⟩ =>
    let rest := next value middle
    ⟨rest.state, events ++ rest.events, rest.result⟩

instance : Monad (Session σ) where
  pure := done
  bind := andThen

/-- The state. -/
def state : Session σ σ := fun s => ⟨s, [], .ok s⟩

/-- Changes the state. -/
def change (f : σ → σ) : Session σ Unit := fun s => ⟨f s, [], .ok ()⟩

/-- Tells an event. -/
def tell (event : Event) : Session σ Unit := fun s => ⟨s, [event], .ok ()⟩

def fail (failure : Failure) : Session σ α := fun s => ⟨s, [], .error failure⟩

/-- Ends as given. -/
def ofExcept (result : Except Failure α) : Session σ α := fun s => ⟨s, [], result⟩

/-- A value, or the refusal of a payload. -/
def ofRefusal (result : Except Refusal α) : Session σ α :=
  ofExcept (result.mapError Failure.refused)

/-- A session on a state of its own, within one on another state, which stays as it is. -/
def within (start : τ) (inner : Session τ α) : Session σ (τ × α) := fun s =>
  match inner start with
  | ⟨_, events, .error failure⟩ => ⟨s, events, .error failure⟩
  | ⟨final, events, .ok value⟩ => ⟨s, events, .ok (final, value)⟩

@[simp] theorem andThen_done (session : Session σ α) : session.andThen done = session := by
  funext s
  simp only [andThen, done]
  split <;> simp_all

@[simp] theorem done_andThen (value : α) (next : α → Session σ β) :
    (done value).andThen next = next value := by
  funext s
  simp [andThen, done]

theorem andThen_andThen {γ : Type} (first : Session σ α) (second : α → Session σ β)
    (third : β → Session σ γ) :
    (first.andThen second).andThen third = first.andThen fun value =>
      (second value).andThen third := by
  funext s
  simp only [andThen]
  rcases first s with ⟨middle, events, _ | value⟩
  · rfl
  · simp only
    rcases second value middle with ⟨last, more, _ | value'⟩
    · rfl
    · simp [List.append_assoc]

instance : LawfulMonad (Session σ) :=
  LawfulMonad.mk' (Session σ) (fun session => andThen_done session)
    (fun value next => done_andThen value next)
    (fun first second third => andThen_andThen first second third)

/-- **A failure keeps state and events**, whatever was to follow. -/
theorem andThen_of_error {first : Session σ α} {s middle : σ} {events : List Event}
    {failure : Failure} (h : first s = ⟨middle, events, .error failure⟩)
    (next : α → Session σ β) :
    first.andThen next s = ⟨middle, events, .error failure⟩ := by
  simp [andThen, h]

/-! ## Steps of a session -/

/-- A session goes on from the state that its first part leaves. -/
theorem bind_of_ok {first : Session σ α} {s middle : σ} {events : List Event} {value : α}
    (h : first s = ⟨middle, events, .ok value⟩) (next : α → Session σ β) :
    (first >>= next) s = ⟨(next value middle).state, events ++ (next value middle).events,
      (next value middle).result⟩ := by
  show first.andThen next s = _
  simp [andThen, h]

theorem bind_of_error {first : Session σ α} {s middle : σ} {events : List Event}
    {failure : Failure} (h : first s = ⟨middle, events, .error failure⟩)
    (next : α → Session σ β) :
    (first >>= next) s = ⟨middle, events, .error failure⟩ :=
  andThen_of_error h next

@[simp] theorem state_bind (next : σ → Session σ β) (s : σ) :
    (Session.state >>= next) s = next s s := rfl

@[simp] theorem tell_bind (event : Event) (next : Unit → Session σ β) (s : σ) :
    (Session.tell event >>= next) s =
      ⟨(next () s).state, event :: (next () s).events, (next () s).result⟩ := rfl

@[simp] theorem change_bind (f : σ → σ) (next : Unit → Session σ β) (s : σ) :
    (Session.change f >>= next) s = next () (f s) := rfl

@[simp] theorem ofRefusal_ok_bind (value : α) (next : α → Session σ β) (s : σ) :
    (Session.ofRefusal (.ok value) >>= next) s = next value s := rfl

@[simp] theorem ofRefusal_error_bind (refusal : Refusal) (next : α → Session σ β) (s : σ) :
    (Session.ofRefusal (.error refusal) >>= next) s = ⟨s, [], .error (.refused refusal)⟩ := rfl

end Session

end DashboardExport
