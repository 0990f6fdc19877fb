import Hotplug.Proofs.Report.Blind
/-!
# Candid actions

An action is candid if it says of every failure exactly once that it came about: when it fails, the
failure is the only thing that it says above debug messages, and otherwise it says nothing above them.
Diagnostics do not count, since they never reach the journal.

A few actions go on after a failure, or know more ways to end. What they say is a function of the way
in which they end all the same, and they are described by that function.

All this is said of runs in which nothing is masked. Of others it follows, since masks do nothing but hide
what they are for; so that is part of the notion.

## Main definitions

* `Hotplug.Report.alerts`: what counts among some reports.
* `Hotplug.Action.Says`, `Hotplug.Action.Tells`: what an action says, by the way in which it ends.
* `Hotplug.Action.Candid`

## Main statements

* `Hotplug.Action.Tells.bind`, `Hotplug.Action.Candid.bind`: what is said by a composition.
* `Hotplug.Action.Candid.attempt_bind`: what is said by an action that goes on after a failure.
-/

namespace Hotplug

variable {σ τ α β : Type}

namespace Report

/-- Whether a report is above debug messages. -/
def isAlert : Report → Bool
  | status level _ => level ≠ .debug
  | failure _ => true
  | diagnostic _ => false

/-- The reports above debug messages, in order. -/
def alerts (reports : List Report) : List Report :=
  reports.filter isAlert

@[simp] theorem alerts_nil : alerts [] = [] := rfl

@[simp] theorem alerts_append (a b : List Report) : alerts (a ++ b) = alerts a ++ alerts b :=
  List.filter_append a b

end Report

/-- What a candid action says when it ends in a way. -/
def Ending.alerts : Ending α → List Report
  | .failed failure => [.failure failure]
  | _ => []

/-- What an action says that may return a failure with its value. -/
def Ending.alertsWith (cut : α → Option Failure) : Ending α → List Report
  | .returned value => (cut value).toList.map .failure
  | .failed failure => [.failure failure]
  | .unending => []

namespace Action

/-- From every state, what the action says above debug messages is what the account gives for the way
in which it ends. -/
def Says (action : Action σ α) (account : Ending α → List Report) : Prop :=
  ∀ state, Report.alerts (action.run state).reports = account (action.run state).ending

/-- The action says what the account gives. Masks hide some of it, and change nothing else. -/
structure Tells (action : Action σ α) (account : Ending α → List Report) : Prop where
  said : action.Says account
  blind : action.Blind

/-- From every state, the action says of the failure that it ends with, and of nothing else. -/
abbrev Candid (action : Action σ α) : Prop :=
  action.Tells Ending.alerts

/-- What is said by a composition. What ends early ends the whole. -/
theorem Tells.bind {first : Action σ α} {next : α → Action σ β}
    {before : Ending α → List Report} {account : Ending β → List Report} (h : first.Tells before)
    (hnext : ∀ value state, before (.returned value) ++
      Report.alerts ((next value).run state).reports = account ((next value).run state).ending)
    (hfailed : ∀ failure, before (.failed failure) = account (.failed failure))
    (hunending : before .unending = account .unending) (hblind : ∀ value, (next value).Blind) :
    (first >>= next).Tells account := by
  refine ⟨fun state => ?_, h.blind.bind hblind⟩
  have hbefore := h.said state
  -- By the way in which the first part ends; only a value lets the second part run.
  rcases hrun : first.run state with ⟨value | failure | _, left, reports⟩
  · rw [run_bind_returned hrun, Report.alerts_append, ← hnext value left]
    rw [hrun] at hbefore
    rw [hbefore]
  · rw [run_bind_failed hrun, ← hfailed failure]
    rw [hrun] at hbefore
    exact hbefore
  · rw [run_bind, hrun]
    rw [hrun] at hbefore
    exact hbefore.trans hunending

/-- A candid beginning says nothing unless it is the end. -/
theorem Candid.bind_tells {first : Action σ α} {next : α → Action σ β}
    {account : Ending β → List Report} (h : first.Candid)
    (hnext : ∀ value, (next value).Tells account)
    (hfailed : ∀ failure, account (.failed failure) = [.failure failure])
    (hunending : account .unending = []) : (first >>= next).Tells account :=
  .bind h (fun value state => (hnext value).said state) (fun failure => (hfailed failure).symm)
    hunending.symm fun value => (hnext value).blind

/-- Making something else of the value says the same, if a failure in it is kept. -/
theorem Tells.bind_pure {action : Action σ α} {cut : α → Option Failure} {cut' : β → Option Failure}
    {f : α → β} (h : action.Tells (Ending.alertsWith cut)) (hf : ∀ value, cut' (f value) = cut value) :
    (action >>= fun value => pure (f value)).Tells (Ending.alertsWith cut') := by
  refine .bind h (fun value state => ?_) (fun _ => rfl) rfl fun _ => .pure
  simp [Ending.alertsWith, hf]

/-- An action that looks at the state first, and runs from it. -/
theorem Tells.of_state {f : σ → Action σ α} {account : Ending α → List Report}
    (h : ∀ state, (f state).Tells account) : Tells (fun state => f state state) account :=
  ⟨fun state => (h state).said state, .of_state fun state => (h state).blind⟩

namespace Candid

theorem pure {value : α} : (pure value : Action σ α).Candid :=
  ⟨fun _ => rfl, .pure⟩

theorem fail {failure : Failure} : (Action.fail failure : Action σ α).Candid :=
  ⟨fun _ => rfl, .fail⟩

theorem wait : (Action.wait : Action σ α).Candid :=
  ⟨fun _ => rfl, .wait⟩

theorem get : (Action.get : Action σ σ).Candid :=
  ⟨fun _ => rfl, .get⟩

theorem gets {f : σ → α} : (Action.gets f).Candid :=
  ⟨fun _ => rfl, .gets⟩

theorem modify {f : σ → σ} : (Action.modify f).Candid :=
  ⟨fun _ => rfl, .modify⟩

theorem modifyGet {f : σ → α × σ} : (Action.modifyGet f).Candid :=
  ⟨fun _ => rfl, .modifyGet⟩

theorem debug {message : String} : (Action.debug message : Action σ Unit).Candid :=
  ⟨fun _ => rfl, .say⟩

theorem diagnose {diagnostic : Diagnostic} :
    (Action.say (.diagnostic diagnostic) : Action σ Unit).Candid :=
  ⟨fun _ => rfl, .say⟩

theorem require (result : Except Failure α) : (Action.require result : Action σ α).Candid := by
  cases result with
  | ok _ => exact .pure
  | error _ => exact .fail

theorem bind {first : Action σ α} {next : α → Action σ β} (h : first.Candid)
    (hnext : ∀ value, (next value).Candid) : (first >>= next).Candid :=
  h.bind_tells hnext (fun _ => rfl) rfl

/-- A choice is candid if both of its branches are. -/
theorem ite {condition : Prop} [Decidable condition] {yes no : Action σ α} (hyes : yes.Candid)
    (hno : no.Candid) : (if condition then yes else no).Candid := by
  split
  · exact hyes
  · exact hno

theorem map {action : Action σ α} (h : action.Candid) (f : α → β) : (f <$> action).Candid := by
  rw [← bind_pure_comp]
  exact h.bind fun _ => .pure

/-- An action that goes on after a failure says what the rest says, and of the failure before. -/
theorem attempt_bind {first : Action σ α} {next : Ending α → Action σ β}
    {account : Ending β → List Report} (h : first.Candid)
    (hnext : ∀ ending state, ending.alerts ++ Report.alerts ((next ending).run state).reports =
      account ((next ending).run state).ending) (hblind : ∀ ending, (next ending).Blind) :
    (first.attempt >>= next).Tells account := by
  refine ⟨fun state => ?_, h.blind.attempt.bind hblind⟩
  rw [run_bind_returned (run_attempt first state), Report.alerts_append, h.said state]
  exact hnext _ _

theorem forIn {items : List α} {step : α → β → Action σ (ForInStep β)}
    (h : ∀ item value, (step item value).Candid) (start : β) :
    (forIn items start step).Candid := by
  induction items generalizing start with
  | nil => exact .pure
  | cons item rest ih =>
    rw [List.forIn_cons]
    refine (h item start).bind fun
      | .done _ => .pure
      | .yield value => ih value

theorem mapM {items : List α} {step : α → Action σ β} (h : ∀ item, (step item).Candid) :
    (items.mapM step).Candid := by
  induction items with
  | nil => exact .pure
  | cons item rest ih =>
    rw [List.mapM_cons]
    exact (h item).bind fun _ => ih.bind fun _ => .pure

end Candid

/-- Running on a part of the state says the same. -/
theorem Tells.on {action : Action τ α} {account : Ending α → List Report} (h : action.Tells account)
    (part : σ → τ) (put : τ → σ → σ) : (action.on part put).Tells account :=
  ⟨fun state => h.said (part state), h.blind.on part put⟩

theorem Candid.on {action : Action τ α} (h : action.Candid) (part : σ → τ) (put : τ → σ → σ) :
    (action.on part put).Candid :=
  Tells.on h part put

end Action

end Hotplug
