import Hotplug.Journal
/-!
# Actions

An operation on a state. It ends in one of three ways: it returns a value, it fails, or it waits for
something that never comes. Whatever the ending, it leaves a state, and a list of reports in the
order in which they came about.

An action sees which sink is in place and which codes are masked. A failure of a masked code is kept
back where it comes about.

## Main definitions

* `Hotplug.Ending`, `Hotplug.Outcome`, `Hotplug.Action`
* `Hotplug.Action.run`, `Hotplug.Action.under`: runs an action with nothing masked, or with what the
  journal says.
* `Hotplug.Action.fail`: reports a failure and ends with it.
* `Hotplug.Action.on`, `Hotplug.Action.alongside`: runs an action on a part of the state, or with something
  besides.
-/

namespace Hotplug

/-- How an operation ends. -/
inductive Ending (α : Type)
  /-- It returns a value. -/
  | returned (value : α)
  /-- It fails. -/
  | failed (failure : Failure)
  /-- It waits for something that never comes. -/
  | unending
  deriving DecidableEq, Repr

namespace Ending

/-- Whether a value was returned. -/
def isReturned : Ending α → Bool
  | returned _ => true
  | _ => false

/-- The value, if one was returned. -/
def value? : Ending α → Option α
  | returned a => some a
  | _ => none

/-- Applies a function to the value. -/
def map (f : α → β) : Ending α → Ending β
  | returned a => returned (f a)
  | failed e => failed e
  | unending => unending

end Ending

/-- What an operation leaves behind. -/
structure Outcome (σ α : Type) where
  /-- How it ended. -/
  ending : Ending α
  /-- The state it left. -/
  state : σ
  /-- What it said, oldest first. -/
  reports : List Report := []

/-- An operation on a state of type `σ`. -/
def Action (σ α : Type) :=
  σ → [Logging] → Outcome σ α

/-- Goes on from an outcome that returned a value; every other outcome is final. -/
def Outcome.andThen [Logging] (out : Outcome σ α) (next : α → Action σ β) : Outcome σ β :=
  match out with
  | ⟨.returned value, state, reports⟩ =>
    let after := next value state
    ⟨after.ending, after.state, reports ++ after.reports⟩
  | ⟨.failed failure, state, reports⟩ => ⟨.failed failure, state, reports⟩
  | ⟨.unending, state, reports⟩ => ⟨.unending, state, reports⟩

namespace Action

variable {σ τ α β : Type}

/-- Runs the action from a state, with the sink and the masks given. -/
def under (logging : Logging) (action : Action σ α) (state : σ) : Outcome σ α :=
  action state

/-- Runs the action from a state, with no code masked. -/
def run (action : Action σ α) (state : σ) : Outcome σ α :=
  action.under .clear state

/-- Returns a value and does nothing else. -/
protected def pure (value : α) : Action σ α := fun state =>
  ⟨.returned value, state, []⟩

/-- Runs `first`; if it returns a value, goes on with `next`. -/
protected def bind (first : Action σ α) (next : α → Action σ β) : Action σ β := fun state =>
  (first state).andThen next

instance : Monad (Action σ) where
  pure := Action.pure
  bind := Action.bind

/-- Ends with a failure, and reports it, unless its code is masked. -/
def fail (failure : Failure) : Action σ α := fun state =>
  ⟨.failed failure, state, Logging.pass (.failure failure)⟩

/-- Ends in the same way as an earlier failure, which was reported when it came about. -/
def failAgain (failure : Failure) : Action σ α := fun state =>
  ⟨.failed failure, state, []⟩

/-- Waits for something that never comes. -/
def wait : Action σ α := fun state =>
  ⟨.unending, state, []⟩

/-- The state. -/
def get : Action σ σ := fun state =>
  ⟨.returned state, state, []⟩

/-- A part of the state. -/
def gets (f : σ → α) : Action σ α := fun state =>
  ⟨.returned (f state), state, []⟩

/-- Changes the state. -/
def modify (f : σ → σ) : Action σ Unit := fun state =>
  ⟨.returned (), f state, []⟩

/-- Changes the state and returns what goes with the change. -/
def modifyGet (f : σ → α × σ) : Action σ α := fun state =>
  ⟨.returned (f state).1, (f state).2, []⟩

/-- Reports something, unless it is a failure whose code is masked. -/
def say (report : Report) : Action σ Unit := fun state =>
  ⟨.returned (), state, Logging.pass report⟩

/-- Reports a status message for those who look closely. -/
def debug (message : String) : Action σ Unit :=
  say (.status .debug message)

/-- Reports a status message that asks for attention. -/
def warn (message : String) : Action σ Unit :=
  say (.status .warning message)

/-- Returns the value of a check, or fails with what the check found. -/
def require : Except Failure α → Action σ α
  | .ok value => pure value
  | .error failure => fail failure

/-- Runs an action and returns how it ended, whatever the way. -/
def attempt (action : Action σ α) : Action σ (Ending α) := fun state =>
  let out := action state
  ⟨.returned out.ending, out.state, out.reports⟩

/-- Runs an action on a part of the state. -/
def on (part : σ → τ) (put : τ → σ → σ) (action : Action τ α) : Action σ α := fun state =>
  let out := action (part state)
  ⟨out.ending, put out.state state, out.reports⟩

/-- Runs an action with something at hand besides the state. What is left of that goes into the value. -/
def alongside (start : τ) (f : α → τ → β) (action : Action (σ × τ) α) : Action σ β := fun state =>
  let out := action (state, start)
  ⟨out.ending.map (f · out.state.2), out.state.1, out.reports⟩

@[simp] theorem run_pure (value : α) (state : σ) :
    (pure value : Action σ α).run state = ⟨.returned value, state, []⟩ := rfl

@[simp] theorem run_fail (failure : Failure) (state : σ) :
    (fail failure : Action σ α).run state = ⟨.failed failure, state, [.failure failure]⟩ := rfl

@[simp] theorem run_get (state : σ) : (get : Action σ σ).run state = ⟨.returned state, state, []⟩ :=
  rfl

@[simp] theorem run_say (report : Report) (state : σ) :
    (say report : Action σ Unit).run state = ⟨.returned (), state, [report]⟩ := by
  cases report <;> rfl

@[simp] theorem run_attempt (action : Action σ α) (state : σ) :
    action.attempt.run state =
      ⟨.returned (action.run state).ending, (action.run state).state, (action.run state).reports⟩ :=
  rfl

theorem run_bind (first : Action σ α) (next : α → Action σ β) (state : σ) :
    (first >>= next).run state = (first.run state).andThen next := rfl

/-- After a value is returned, the rest of the action runs from the state left, and its reports
follow. -/
theorem run_bind_returned {first : Action σ α} {next : α → Action σ β} {state left : σ} {value : α}
    {reports : List Report} (h : first.run state = ⟨.returned value, left, reports⟩) :
    (first >>= next).run state =
      ⟨((next value).run left).ending, ((next value).run left).state,
        reports ++ ((next value).run left).reports⟩ := by
  rw [run_bind, h]
  rfl

/-- A failure ends the whole action. -/
theorem run_bind_failed {first : Action σ α} {next : α → Action σ β} {state left : σ}
    {failure : Failure} {reports : List Report}
    (h : first.run state = ⟨.failed failure, left, reports⟩) :
    (first >>= next).run state = ⟨.failed failure, left, reports⟩ := by
  rw [run_bind, h]
  rfl

instance : LawfulMonad (Action σ) := by
  refine LawfulMonad.mk' _ ?_ ?_ ?_
  · intro α x
    funext s logging
    change Action.bind x (Action.pure ∘ id) s = x s
    unfold Action.bind
    rcases h : x s with ⟨_ | _ | _, _, _⟩ <;> simp [Outcome.andThen, Action.pure]
  · intro α β x f
    funext s logging
    change Action.bind (Action.pure x) f s = f x s
    simp [Action.bind, Outcome.andThen, Action.pure]
  · intro α β γ x f g
    funext s logging
    change Action.bind (Action.bind x f) g s = Action.bind x (fun a => Action.bind (f a) g) s
    unfold Action.bind
    rcases x s with ⟨_ | _ | _, s', r⟩ <;> simp only [Outcome.andThen]
    rcases f _ s' with ⟨_ | _ | _, _, _⟩ <;> simp

end Action

end Hotplug
