import Hotplug.Action
/-!
# Hoare triples for actions

A triple says what an action makes of every state with some property: how it ends, and what it leaves.
All endings count, since an action that fails or waits forever leaves a state too. Where one state is
enough, the way in which the action ends from there and what it leaves are said directly.

## Main definitions

* `Hotplug.Action.Hoare`: the triple.
* `Hotplug.Action.Ends`: how an action ends from one state, and what it leaves.
* `Hotplug.Ending.ofCheck`: how an action ends that makes a check.
* `Hotplug.Action.Gives`: what any value is like that an action returns.

## Main statements

* `Hotplug.Action.Hoare.bind`: triples of parts make a triple of their composition.
* `Hotplug.Action.Hoare.mapM`: what each of some actions makes sure of holds of all values.
-/

namespace Hotplug

variable {σ τ α β : Type}

theorem Ending.value?_eq_some_iff {ending : Ending α} {value : α} :
    ending.value? = some value ↔ ending = .returned value := by
  cases ending <;> simp [value?]

/-- From every state with `pre`, the action ends and leaves a state as `post` says. -/
def Action.Hoare (action : Action σ α) (pre : σ → Prop) (post : Ending α → σ → Prop) : Prop :=
  ∀ state, pre state → post (action.run state).ending (action.run state).state

namespace Action.Hoare

theorem consequence {action : Action σ α} {pre pre' : σ → Prop} {post post' : Ending α → σ → Prop}
    (h : action.Hoare pre post) (hpre : ∀ state, pre' state → pre state)
    (hpost : ∀ ending state, post ending state → post' ending state) : action.Hoare pre' post' :=
  fun state hstate => hpost _ _ (h state (hpre state hstate))

theorem weaken {action : Action σ α} {pre : σ → Prop} {post post' : Ending α → σ → Prop}
    (h : action.Hoare pre post) (hpost : ∀ ending state, post ending state → post' ending state) :
    action.Hoare pre post' :=
  h.consequence (fun _ h => h) hpost

theorem strengthen {action : Action σ α} {pre pre' : σ → Prop} {post : Ending α → σ → Prop}
    (h : action.Hoare pre post) (hpre : ∀ state, pre' state → pre state) : action.Hoare pre' post :=
  h.consequence hpre fun _ _ h => h

/-- A fact that holds in every state to begin with can be assumed. -/
theorem given {action : Action σ α} {pre : σ → Prop} {post : Ending α → σ → Prop} {fact : Prop}
    (hfact : ∀ state, pre state → fact) (h : fact → action.Hoare pre post) :
    action.Hoare pre post :=
  fun state hpre => h (hfact state hpre) state hpre

theorem pure {value : α} {pre : σ → Prop} {post : Ending α → σ → Prop}
    (h : ∀ state, pre state → post (.returned value) state) :
    (pure value : Action σ α).Hoare pre post :=
  h

theorem wait {pre : σ → Prop} {post : Ending α → σ → Prop}
    (h : ∀ state, pre state → post .unending state) : (Action.wait : Action σ α).Hoare pre post :=
  h

theorem fail {failure : Failure} {pre : σ → Prop} {post : Ending α → σ → Prop}
    (h : ∀ state, pre state → post (.failed failure) state) :
    (Action.fail failure : Action σ α).Hoare pre post :=
  h

theorem get {pre : σ → Prop} {post : Ending σ → σ → Prop}
    (h : ∀ state, pre state → post (.returned state) state) :
    (Action.get : Action σ σ).Hoare pre post :=
  h

theorem modify {f : σ → σ} {pre : σ → Prop} {post : Ending Unit → σ → Prop}
    (h : ∀ state, pre state → post (.returned ()) (f state)) :
    (Action.modify f).Hoare pre post :=
  h

theorem modifyGet {f : σ → α × σ} {pre : σ → Prop} {post : Ending α → σ → Prop}
    (h : ∀ state, pre state → post (.returned (f state).1) (f state).2) :
    (Action.modifyGet f).Hoare pre post :=
  h

theorem say {report : Report} {pre : σ → Prop} {post : Ending Unit → σ → Prop}
    (h : ∀ state, pre state → post (.returned ()) state) :
    (Action.say report : Action σ Unit).Hoare pre post :=
  h

/-- Triples of parts make a triple of their composition. What ends early ends the whole. -/
theorem bind {first : Action σ α} {next : α → Action σ β} {pre : σ → Prop}
    {mid : Ending α → σ → Prop} {post : Ending β → σ → Prop} (h : first.Hoare pre mid)
    (hnext : ∀ value, (next value).Hoare (mid (.returned value)) post)
    (hfailed : ∀ failure state, mid (.failed failure) state → post (.failed failure) state)
    (hunending : ∀ state, mid .unending state → post .unending state) :
    (first >>= next).Hoare pre post := by
  intro state hpre
  have hmid := h state hpre
  rw [run_bind]
  rcases hrun : first.run state with ⟨value | failure | _, left, reports⟩
  · rw [hrun] at hmid
    exact hnext value left hmid
  · rw [hrun] at hmid
    exact hfailed failure left hmid
  · rw [hrun] at hmid
    exact hunending left hmid

/-- A first part that always returns a value. -/
theorem bind_returned {first : Action σ α} {next : α → Action σ β} {pre : σ → Prop}
    {mid : α → σ → Prop} {post : Ending β → σ → Prop}
    (h : first.Hoare pre fun ending state => ∃ value, ending = .returned value ∧ mid value state)
    (hnext : ∀ value, (next value).Hoare (mid value) post) : (first >>= next).Hoare pre post := by
  refine .bind h (fun value state hmid => ?_) (fun _ _ hmid => ?_) fun _ hmid => ?_
  · obtain ⟨_, heq, hmid⟩ := hmid
    cases heq
    exact hnext value state hmid
  · obtain ⟨_, heq, -⟩ := hmid
    cases heq
  · obtain ⟨_, heq, -⟩ := hmid
    cases heq

theorem attempt {action : Action σ α} {pre : σ → Prop} {post : Ending (Ending α) → σ → Prop}
    (h : action.Hoare pre fun ending state => post (.returned ending) state) :
    action.attempt.Hoare pre post :=
  h

/-- What each of some actions makes sure of its value holds of all values. -/
theorem mapM {items : List α} {step : α → Action σ β} {pre : σ → Prop} {good : β → Prop}
    (h : ∀ item, (step item).Hoare pre fun ending state =>
      pre state ∧ ∀ value, ending = .returned value → good value) :
    (items.mapM step).Hoare pre fun ending state =>
      pre state ∧ ∀ values, ending = .returned values → ∀ value ∈ values, good value := by
  induction items with
  | nil =>
    refine .pure fun state hpre => ⟨hpre, fun values heq => ?_⟩
    cases heq
    simp
  | cons item rest ih =>
    rw [List.mapM_cons]
    refine .bind (h item) (fun value => ?_) (fun _ _ hmid => ⟨hmid.1, nofun⟩)
      fun _ hmid => ⟨hmid.1, nofun⟩
    refine .given (fun _ hmid => hmid.2 value rfl) fun hvalue => ?_
    refine .bind (ih.strengthen fun _ hmid => hmid.1) (fun values => ?_)
      (fun _ _ hmid => ⟨hmid.1, nofun⟩) fun _ hmid => ⟨hmid.1, nofun⟩
    refine .pure fun state hmid => ⟨hmid.1, fun all heq => ?_⟩
    cases heq
    exact List.forall_mem_cons.2 ⟨hvalue, hmid.2 values rfl⟩

/-- An action leaves a property alone if its parts do. -/
theorem bind_keep {first : Action σ α} {next : α → Action σ β} {property : σ → Prop}
    (h : first.Hoare property fun _ => property)
    (hnext : ∀ value, (next value).Hoare property fun _ => property) :
    (first >>= next).Hoare property fun _ => property :=
  .bind h hnext (fun _ _ h => h) fun _ h => h

end Action.Hoare

/-- From a state, the action ends in a way and leaves a state, whatever it says. -/
def Action.Ends (action : Action σ α) (state : σ) (ending : Ending α) (left : σ) : Prop :=
  (action.run state).ending = ending ∧ (action.run state).state = left

namespace Action

variable {state middle left : σ}

theorem ends_run (action : Action σ α) (state : σ) :
    action.Ends state (action.run state).ending (action.run state).state :=
  ⟨rfl, rfl⟩

theorem Ends.bind {first : Action σ α} {next : α → Action σ β} {value : α} {ending : Ending β}
    (h : first.Ends state (.returned value) middle) (hnext : (next value).Ends middle ending left) :
    (first >>= next).Ends state ending left := by
  obtain ⟨hending, hstate⟩ := h
  rcases hrun : first.run state with ⟨_, _, reports⟩
  rw [hrun] at hending hstate
  cases hending
  cases hstate
  rw [Ends, run_bind_returned hrun]
  exact hnext

theorem Ends.bind_failed {first : Action σ α} {next : α → Action σ β} {failure : Failure}
    (h : first.Ends state (.failed failure) left) :
    (first >>= next).Ends state (.failed failure) left := by
  obtain ⟨hending, hstate⟩ := h
  rcases hrun : first.run state with ⟨_, _, reports⟩
  rw [hrun] at hending hstate
  cases hending
  cases hstate
  rw [Ends, run_bind_failed hrun]
  exact ⟨rfl, rfl⟩

theorem Ends.bind_unending {first : Action σ α} {next : α → Action σ β}
    (h : first.Ends state .unending left) : (first >>= next).Ends state .unending left := by
  obtain ⟨hending, hstate⟩ := h
  rw [Ends, run_bind]
  rcases hrun : first.run state with ⟨_, _, reports⟩
  rw [hrun] at hending hstate
  cases hending
  cases hstate
  exact ⟨rfl, rfl⟩

theorem run_on (part : σ → τ) (put : τ → σ → σ) (action : Action τ α) (state : σ) :
    (action.on part put).run state = ⟨(action.run (part state)).ending,
      put (action.run (part state)).state state, (action.run (part state)).reports⟩ :=
  rfl

theorem run_bind_run {first : Action σ α} {next : α → Action σ β} {value : α} {ending : Ending β}
    {reports more : List Report} (h : first.run state = ⟨.returned value, middle, reports⟩)
    (hnext : (next value).run middle = ⟨ending, left, more⟩) :
    (first >>= next).run state = ⟨ending, left, reports ++ more⟩ := by
  rw [run_bind_returned h, hnext]

/-- What comes of an action whose value is only looked at. -/
theorem run_bind_pure (action : Action σ α) (f : α → β) (state : σ) :
    (action >>= fun value => pure (f value)).run state =
      ⟨(action.run state).ending.map f, (action.run state).state, (action.run state).reports⟩ := by
  rw [run_bind]
  rcases action.run state with ⟨value | failure | _, left, reports⟩
  · exact congrArg (Outcome.mk _ left) (List.append_nil reports)
  · rfl
  · rfl

theorem run_mapM_singleton {item : α} {step : α → Action σ β} {value : β} {reports : List Report}
    (h : (step item).run state = ⟨.returned value, left, reports⟩) :
    ([item].mapM step).run state = ⟨.returned [value], left, reports⟩ := by
  rw [List.mapM_cons, List.mapM_nil, run_bind_returned h]
  simp

/-- Saying things changes nothing. -/
theorem run_forIn_say (items : List α) (report : α → Report) (state : σ) :
    (forIn items PUnit.unit fun item _ => do
      Action.say (report item)
      pure (ForInStep.yield PUnit.unit) : Action σ PUnit).run state =
        ⟨.returned PUnit.unit, state, items.map report⟩ := by
  induction items with
  | nil => rfl
  | cons item rest ih =>
    have hsaid : (Action.say (report item) >>= fun _ => pure (ForInStep.yield PUnit.unit) :
        Action σ _).run state = ⟨.returned (.yield PUnit.unit), state, [report item]⟩ := by
      rw [run_bind_returned (run_say (report item) state)]
      rfl
    rw [List.forIn_cons, run_bind_returned hsaid]
    dsimp only
    rw [ih]
    rfl

theorem ends_forIn_say (items : List α) (report : α → Report) (state : σ) :
    (forIn items PUnit.unit fun item _ => do
      Action.say (report item)
      pure (ForInStep.yield PUnit.unit) : Action σ PUnit).Ends state (.returned PUnit.unit) state := by
  rw [Ends, run_forIn_say]
  exact ⟨rfl, rfl⟩

theorem ends_forIn_debug (items : List α) (line : α → String) (state : σ) :
    (forIn items PUnit.unit fun item _ => do
      Action.debug (line item)
      pure (ForInStep.yield PUnit.unit) : Action σ PUnit).Ends state (.returned PUnit.unit) state :=
  ends_forIn_say items (fun item => .status .debug (line item)) state

end Action

/-! ### Checks -/

/-- How an action ends that makes a check and nothing else. -/
def Ending.ofCheck : Except Failure α → Ending α
  | .ok value => .returned value
  | .error failure => .failed failure

theorem Ending.ofCheck_eq_returned_iff {check : Except Failure α} {value : α} :
    ofCheck check = .returned value ↔ check = .ok value := by
  cases check <;> simp [ofCheck]

theorem Ending.ofCheck_eq_failed_iff {check : Except Failure α} {failure : Failure} :
    ofCheck check = .failed failure ↔ check = .error failure := by
  cases check <;> simp [ofCheck]

theorem Ending.ofCheck_ne_unending (check : Except Failure α) : ofCheck check ≠ .unending := by
  cases check <;> exact nofun

namespace Action

variable {state : σ}

theorem ends_require (check : Except Failure α) (state : σ) :
    (require check : Action σ α).Ends state (.ofCheck check) state := by
  cases check <;> exact ⟨rfl, rfl⟩

theorem Ends.bind_check {first : Action σ α} {next : α → Action σ β} {check : Except Failure α}
    {rest : α → Except Failure β} (h : first.Ends state (.ofCheck check) state)
    (hnext : ∀ value, (next value).Ends state (.ofCheck (rest value)) state) :
    (first >>= next).Ends state (.ofCheck (check >>= rest)) state := by
  cases check with
  | ok value => exact h.bind (hnext value)
  | error failure => exact h.bind_failed

theorem ends_mapM {items : List α} {step : α → Action σ β} {check : α → Except Failure β}
    (h : ∀ item, (step item).Ends state (.ofCheck (check item)) state) :
    (items.mapM step).Ends state (.ofCheck (items.mapM check)) state := by
  induction items with
  | nil => exact ⟨rfl, rfl⟩
  | cons item rest ih =>
    rw [List.mapM_cons, List.mapM_cons]
    exact (h item).bind_check fun value => ih.bind_check fun values => ⟨rfl, rfl⟩

end Action

/-! ### Values -/

/-- From whatever state, a value that the action returns is good. -/
def Action.Gives (action : Action σ α) (good : α → Prop) : Prop :=
  ∀ state value, (action.run state).ending = .returned value → good value

namespace Action.Gives

variable {good : α → Prop}

theorem pure {value : α} (h : good value) : (pure value : Action σ α).Gives good :=
  fun _ _ heq => by cases heq; exact h

theorem fail {failure : Failure} : (Action.fail failure : Action σ α).Gives good :=
  nofun

theorem wait : (Action.wait : Action σ α).Gives good :=
  nofun

theorem require (check : Except Failure α) :
    (Action.require check : Action σ α).Gives fun value => check = .ok value := by
  cases check with
  | ok value => exact .pure rfl
  | error failure => exact .fail

theorem bind {first : Action σ α} {next : α → Action σ β} {post : β → Prop} (h : first.Gives good)
    (hnext : ∀ value, good value → (next value).Gives post) : (first >>= next).Gives post := by
  intro state result heq
  rw [run_bind] at heq
  rcases hrun : first.run state with ⟨value | failure | _, left, reports⟩
  · rw [hrun] at heq
    exact hnext value (h state value (by rw [hrun])) left result heq
  · rw [hrun] at heq
    cases heq
  · rw [hrun] at heq
    cases heq

/-- What comes first does not matter if the rest gives good values in any case. -/
theorem after {first : Action σ α} {next : α → Action σ β} {post : β → Prop}
    (hnext : ∀ value, (next value).Gives post) : (first >>= next).Gives post :=
  bind (fun _ _ _ => trivial) fun value (_ : True) => hnext value

end Action.Gives

end Hotplug
