import Hotplug.Action
/-!
# Blind actions

A failure of a masked code is kept back where it comes about. An action is blind if nothing else
depends on the masks and the sink: under any of them it ends as it does with nothing masked, leaves the
same state, and says the same, less what is masked.

What can fail keeps something back, and what runs other actions runs them under the same masks. So an
action is blind because its parts are, and whatever looked at a mask to choose its way would not be.

## Main definitions

* `Hotplug.Outcome.hidden`: an outcome less what is masked of what was said.
* `Hotplug.Action.Blind`

## Main statements

* `Hotplug.Action.Blind.fail`, `Hotplug.Action.Blind.say`: what is kept back.
* `Hotplug.Action.Blind.bind`, `Hotplug.Action.Blind.attempt`, and so on: one rule for each way to put
  actions together.
* `Hotplug.Action.exists_not_blind`
-/

namespace Hotplug

variable {σ τ α β : Type}

/-- An outcome less what is masked of what was said. -/
def Outcome.hidden (masks : Masks) (out : Outcome σ α) : Outcome σ α :=
  { out with reports := out.reports.filter masks.lets }

namespace Action

/-- Masks hide what is said, and change nothing else; the sink changes nothing at all. -/
def Blind (action : Action σ α) : Prop :=
  ∀ logging state, action.under logging state = (action.run state).hidden logging.masks

/-- Actions see the masks, and not every action is blind: this one goes no further where failures of a code
are masked. -/
theorem exists_not_blind : ∃ action : Action Unit Unit, ¬action.Blind := by
  let stopped : Action Unit Unit := fun state [logging : Logging] =>
    if logging.masks.isMasked .io then wait state else ⟨.returned (), state, []⟩
  refine ⟨stopped, fun hblind => ?_⟩
  have hending := congrArg Outcome.ending (hblind ⟨"", Masks.none.acquire .io⟩ ())
  have hstops : (stopped.under ⟨"", Masks.none.acquire .io⟩ ()).ending = .unending := rfl
  have hreturns : (stopped.run ()).ending = .returned () := rfl
  rw [hstops] at hending
  exact absurd (hending.trans hreturns) nofun

theorem lets_none (report : Report) : Masks.none.lets report = true := by
  cases report <;> rfl

/-- With nothing masked, the sink makes no difference. -/
theorem Blind.under_clear {action : Action σ α} (h : action.Blind) (logging : Logging)
    (hclear : logging.masks = .none) (state : σ) : action.under logging state = action.run state := by
  rw [h logging state, hclear, Outcome.hidden, List.filter_eq_self.2 fun report _ => lets_none report]

namespace Blind

theorem pure {value : α} : (pure value : Action σ α).Blind :=
  fun _ _ => rfl

theorem fail {failure : Failure} : (Action.fail failure : Action σ α).Blind := by
  intro logging state
  rw [run_fail]
  rfl

theorem failAgain {failure : Failure} : (Action.failAgain failure : Action σ α).Blind :=
  fun _ _ => rfl

theorem wait : (Action.wait : Action σ α).Blind :=
  fun _ _ => rfl

theorem get : (Action.get : Action σ σ).Blind :=
  fun _ _ => rfl

theorem gets {f : σ → α} : (Action.gets f).Blind :=
  fun _ _ => rfl

theorem modify {f : σ → σ} : (Action.modify f).Blind :=
  fun _ _ => rfl

theorem modifyGet {f : σ → α × σ} : (Action.modifyGet f).Blind :=
  fun _ _ => rfl

theorem say {report : Report} : (Action.say report : Action σ Unit).Blind := by
  intro logging state
  rw [run_say]
  rfl

theorem require (result : Except Failure α) : (Action.require result : Action σ α).Blind := by
  cases result with
  | ok _ => exact .pure
  | error _ => exact .fail

/-- What the second part says is hidden as it is by itself, behind what is left of the first. -/
theorem bind {first : Action σ α} {next : α → Action σ β} (h : first.Blind)
    (hnext : ∀ value, (next value).Blind) : (first >>= next).Blind := by
  intro logging state
  change (first.under logging state).andThen next = _
  rw [h logging state, run_bind]
  rcases first.run state with ⟨value | failure | _, left, reports⟩
  · change Outcome.mk ((next value).under logging left).ending ((next value).under logging left).state
      (_ ++ ((next value).under logging left).reports) = _
    rw [hnext value logging left]
    exact congrArg (Outcome.mk _ _) (List.filter_append ..).symm
  · rfl
  · rfl

/-- An action that looks at the state first, and runs from it. -/
theorem of_state {f : σ → Action σ α} (h : ∀ state, (f state).Blind) :
    Blind (fun state => f state state) :=
  fun logging state => h state logging state

theorem ite {condition : Prop} [Decidable condition] {yes no : Action σ α} (hyes : yes.Blind)
    (hno : no.Blind) : (if condition then yes else no).Blind := by
  split
  · exact hyes
  · exact hno

theorem map {action : Action σ α} (h : action.Blind) (f : α → β) : (f <$> action).Blind := by
  rw [← bind_pure_comp]
  exact h.bind fun _ => .pure

/-- How an action ends does not depend on the masks, so neither does what goes on from there. -/
theorem attempt {action : Action σ α} (h : action.Blind) : action.attempt.Blind := by
  intro logging state
  change Outcome.mk (.returned (action.under logging state).ending) (action.under logging state).state
    (action.under logging state).reports = _
  rw [h logging state]
  rfl

theorem on {action : Action τ α} (h : action.Blind) (part : σ → τ) (put : τ → σ → σ) :
    (action.on part put).Blind := by
  intro logging state
  change Outcome.mk (action.under logging (part state)).ending
    (put (action.under logging (part state)).state state) (action.under logging (part state)).reports = _
  rw [h logging (part state)]
  rfl

theorem alongside {action : Action (σ × τ) α} (h : action.Blind) (start : τ) (f : α → τ → β) :
    (action.alongside start f).Blind := by
  intro logging state
  change Outcome.mk ((action.under logging (state, start)).ending.map
      (f · (action.under logging (state, start)).state.2))
    (action.under logging (state, start)).state.1 (action.under logging (state, start)).reports = _
  rw [h logging (state, start)]
  rfl

theorem forIn {items : List α} {step : α → β → Action σ (ForInStep β)}
    (h : ∀ item value, (step item value).Blind) (start : β) : (forIn items start step).Blind := by
  induction items generalizing start with
  | nil => exact .pure
  | cons item rest ih =>
    rw [List.forIn_cons]
    refine (h item start).bind fun
      | .done _ => .pure
      | .yield value => ih value

theorem mapM {items : List α} {step : α → Action σ β} (h : ∀ item, (step item).Blind) :
    (items.mapM step).Blind := by
  induction items with
  | nil => exact .pure
  | cons item rest ih =>
    rw [List.mapM_cons]
    exact (h item).bind fun _ => ih.bind fun _ => .pure

theorem forM {items : List α} {step : α → Action σ PUnit} (h : ∀ item, (step item).Blind) :
    (items.forM step).Blind := by
  induction items with
  | nil => exact .pure
  | cons item rest ih =>
    exact (h item).bind fun _ => ih

theorem forM_option {item : Option α} {step : α → Action σ PUnit} (h : ∀ item, (step item).Blind) :
    (item.forM step).Blind := by
  cases item with
  | none => exact .pure
  | some item => exact h item

end Blind

end Action

end Hotplug
