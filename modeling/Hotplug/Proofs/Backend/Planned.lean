import Hotplug.Backend.Faults
import Hotplug.Proofs.Backend.Dealings
/-!
# What becomes of a plan of faults

Devices in memory keep one fault for each operation. Of several faults that a plan has for the same
operation the last takes the place of the others, and the next call of the operation uses it up. One
fault after the other is what comes of a plan that has no more than one for each operation.

## Main definitions

* `Hotplug.FaultPlan.codesFor`: what a plan has for an operation.
* `Hotplug.Memory.Dealing.callsOf`: how often an operation is called.
* `Hotplug.FaultPlan.Queues`: the calls of an operation fail one after the other as planned.

## Main statements

* `Hotplug.FaultPlan.get?_faults_apply`: the faults that wait once a plan was applied.
* `Hotplug.Memory.Dealing.get?_faults_afterAll`: those that still wait after any number of dealings.
* `Hotplug.FaultPlan.last_alone_fails`
-/

namespace Hotplug

namespace Memory.Dealing

variable {dealings : List Dealing}

/-- How often an operation is called, whether the calls fail or not. -/
def callsOf (operation : Operation) (dealings : List Dealing) : Nat :=
  (dealings.filterMap operation?).count operation

def AsksNoFault (dealings : List Dealing) : Prop :=
  ∀ fault, failNext fault ∉ dealings

theorem calls_afterAll (dealings : List Dealing) (memory : Memory) :
    (afterAll dealings memory).calls = memory.calls ++ dealings.filterMap operation? := by
  induction dealings generalizing memory with
  | nil => exact (List.append_nil _).symm
  | cons dealing rest ih =>
    change (afterAll rest (dealing.after memory)).calls = _
    rw [ih, calls_after, List.append_assoc, List.filterMap_cons]
    cases dealing.operation? <;> rfl

theorem callsOf_cons (operation : Operation) (dealing : Dealing) (rest : List Dealing) :
    callsOf operation (dealing :: rest) =
      (if dealing.operation? = some operation then 1 else 0) + callsOf operation rest := by
  rw [callsOf, callsOf, List.filterMap_cons]
  cases dealing.operation? with
  | none => simp
  | some other =>
    rw [List.count_cons, Nat.add_comm]
    simp

/-- A fault waits until its operation is called, whatever else is called in the meantime. -/
theorem get?_faults_afterAll (h : AsksNoFault dealings) (memory : Memory) (operation : Operation) :
    (afterAll dealings memory).faults.get? operation =
      if callsOf operation dealings = 0 then memory.faults.get? operation else none := by
  induction dealings generalizing memory with
  | nil => rfl
  | cons dealing rest ih =>
    have hfirst (fault : Fault) : dealing ≠ failNext fault :=
      fun heq => h fault (heq ▸ List.mem_cons_self)
    have hrest : AsksNoFault rest := fun fault hmem => h fault (List.mem_cons_of_mem _ hmem)
    change (afterAll rest (dealing.after memory)).faults.get? operation = _
    rw [ih hrest, faults_after hfirst, callsOf_cons]
    by_cases hcalled : dealing.operation? = some operation
    · simp [hcalled]
    · simp [hcalled]

end Memory.Dealing

namespace FaultPlan

open Memory.Dealing

/-- The codes that a plan has for an operation, in order. -/
def codesFor (plan : FaultPlan) (operation : Operation) : List Code :=
  (plan.faults.filter (·.operation = operation)).map Fault.code

/-- The calls of an operation fail one after the other with the codes that the plan has for it, and
those that come after them fail by no fault, whatever else is done in between. -/
def Queues (plan : FaultPlan) (operation : Operation) : Prop :=
  ∀ dealings, AsksNoFault dealings → ∀ call : Memory.Call, call.operation = operation → ∀ code,
    (call.FailsBy code (afterAll dealings (plan.apply {})) ↔
      (plan.codesFor operation)[callsOf operation dealings]? = some code)

variable {plan : FaultPlan} {operation : Operation}

theorem codesFor_cons_of_eq {fault : Fault} (h : fault.operation = operation) (rest : List Fault) :
    codesFor ⟨fault :: rest⟩ operation = fault.code :: codesFor ⟨rest⟩ operation := by
  rw [codesFor, List.filter_cons_of_pos (by simpa using h)]
  rfl

theorem codesFor_cons_of_ne {fault : Fault} (h : fault.operation ≠ operation) (rest : List Fault) :
    codesFor ⟨fault :: rest⟩ operation = codesFor ⟨rest⟩ operation := by
  rw [codesFor, List.filter_cons_of_neg (by simpa using h)]
  rfl

/-- Of the faults for one operation the last one waits. -/
theorem get?_faults_apply (plan : FaultPlan) (memory : Memory) (operation : Operation) :
    (plan.apply memory).faults.get? operation =
      (plan.codesFor operation).getLast?.or (memory.faults.get? operation) := by
  obtain ⟨faults⟩ := plan
  induction faults generalizing memory with
  | nil => rfl
  | cons fault rest ih =>
    have hwaits : (memory.failNext fault).faults.get? operation =
        if operation = fault.operation then some fault.code else memory.faults.get? operation :=
      Table.get?_insert ..
    change ((FaultPlan.mk rest).apply (memory.failNext fault)).faults.get? operation = _
    rw [ih, hwaits]
    by_cases hsame : fault.operation = operation
    · rw [if_pos hsame.symm, codesFor_cons_of_eq hsame, List.getLast?_cons]
      cases (codesFor ⟨rest⟩ operation).getLast? <;> rfl
    · rw [if_neg (Ne.symm hsame), codesFor_cons_of_ne hsame]

theorem calls_apply (plan : FaultPlan) (memory : Memory) : (plan.apply memory).calls = memory.calls := by
  obtain ⟨faults⟩ := plan
  induction faults generalizing memory with
  | nil => rfl
  | cons fault rest ih => exact ih (memory.failNext fault)

/-- The first call of the operation fails with the last code, and no other call does. -/
theorem failsBy_afterAll_iff {dealings : List Memory.Dealing} (h : AsksNoFault dealings)
    {call : Memory.Call} (hcall : call.operation = operation) {code : Code} :
    call.FailsBy code (afterAll dealings (plan.apply {})) ↔
      callsOf operation dealings = 0 ∧ (plan.codesFor operation).getLast? = some code := by
  rw [Memory.Call.failsBy_iff, hcall, get?_faults_afterAll h, get?_faults_apply, Table.get?_empty,
    Option.or_none]
  by_cases hcalled : callsOf operation dealings = 0
  · simp [hcalled]
  · simp [hcalled]

theorem queues_iff : plan.Queues operation ↔ (plan.codesFor operation).length ≤ 1 := by
  constructor
  · intro hqueues
    by_contra hmany
    obtain ⟨call, hcall⟩ := Memory.Call.exists_operation operation
    -- After one call the next would have to fail too.
    have hdealings : AsksNoFault [.call call] := fun fault hmem => by simp at hmem
    have honce : callsOf operation [.call call] = 1 := by
      rw [callsOf_cons, Memory.Dealing.operation?, hcall, if_pos rfl]
      rfl
    obtain ⟨second, hsecond⟩ :
        ∃ second, (plan.codesFor operation)[callsOf operation [.call call]]? = some second := by
      rw [honce]
      exact ⟨_, List.getElem?_eq_getElem (Nat.lt_of_not_le hmany)⟩
    have hfails := (hqueues _ hdealings call hcall second).2 hsecond
    rw [failsBy_afterAll_iff hdealings hcall, honce] at hfails
    exact absurd hfails.1 Nat.one_ne_zero
  · intro hfew dealings hdealings call hcall code
    rw [failsBy_afterAll_iff hdealings hcall]
    rcases hcodes : plan.codesFor operation with _ | ⟨only, _ | ⟨next, rest⟩⟩
    · simp
    · cases callsOf operation dealings <;> simp
    · simp [hcodes] at hfew

/-- Once a plan was applied to new devices, every call of an operation is counted. Only the first one
fails by a fault, and it fails with the last code that the plan has for the operation. So the faults
come one after the other exactly if the plan has no more than one for the operation. -/
theorem last_alone_fails (plan : FaultPlan) (operation : Operation) :
    (∀ dealings, AsksNoFault dealings →
      (afterAll dealings (plan.apply {})).callCount operation = callsOf operation dealings ∧
      ∀ call : Memory.Call, call.operation = operation → ∀ code,
        (call.FailsBy code (afterAll dealings (plan.apply {})) ↔
          callsOf operation dealings = 0 ∧ (plan.codesFor operation).getLast? = some code)) ∧
    (plan.Queues operation ↔ (plan.codesFor operation).length ≤ 1) := by
  refine ⟨fun dealings hdealings => ⟨?_, fun call hcall code => ?_⟩, queues_iff⟩
  · rw [Memory.callCount, calls_afterAll, calls_apply, List.nil_append, callsOf]
  · exact failsBy_afterAll_iff hdealings hcall

/-- Two faults for one operation, with one for another operation between them. -/
def twoForEnumerate : FaultPlan :=
  ((fail {} .enumerate .io).fail .read .notFound).fail .enumerate .system

/-- A device that is plugged in, looked for and read. -/
def lookedForAndRead : List Memory.Dealing :=
  [.plug default, .call (.read ⟨0, "", 3⟩ 1 0), .call (.enumerate {})]

/-- The listing fails as the second of its faults says. The next one does not fail, and the fault for
reading was taken in its turn. -/
theorem last_alone_fails_twoForEnumerate :
    AsksNoFault (lookedForAndRead.take 2) ∧ AsksNoFault lookedForAndRead ∧
      (Memory.Call.enumerate {}).FailsBy .system
        (afterAll (lookedForAndRead.take 2) (twoForEnumerate.apply {})) ∧
      (∀ code, ¬ (Memory.Call.enumerate {}).FailsBy code
        (afterAll lookedForAndRead (twoForEnumerate.apply {}))) ∧
      (afterAll lookedForAndRead (twoForEnumerate.apply {})).callCount .enumerate = 1 ∧
      twoForEnumerate.Queues .read := by
  have hbefore : AsksNoFault (lookedForAndRead.take 2) := by simp [AsksNoFault, lookedForAndRead]
  have hafter : AsksNoFault lookedForAndRead := by simp [AsksNoFault, lookedForAndRead]
  obtain ⟨hall, -⟩ := last_alone_fails twoForEnumerate .enumerate
  refine ⟨hbefore, hafter, ?_, fun code hfails => ?_, (hall _ hafter).1, ?_⟩
  · exact ((hall _ hbefore).2 _ rfl .system).2 ⟨rfl, rfl⟩
  · exact absurd (((hall _ hafter).2 _ rfl code).1 hfails).1 (by decide)
  · exact (last_alone_fails twoForEnumerate .read).2.2 (by decide)

/-- The first of two faults for the same operation is never seen, and the second call does not fail. -/
theorem twoForEnumerate_loses_fault :
    ¬ twoForEnumerate.Queues .enumerate ∧
      ¬ (Memory.Call.enumerate {}).FailsBy .io (twoForEnumerate.apply {}) ∧
      ∀ code, ¬ (Memory.Call.enumerate {}).FailsBy code
        ((Memory.Call.enumerate {}).after (twoForEnumerate.apply {})) := by
  refine ⟨fun hqueues => absurd (queues_iff.1 hqueues) (by decide), fun hfails => ?_,
    fun code hfails => ?_⟩
  · exact absurd (Memory.Call.failsBy_iff.1 hfails) (by decide)
  · rw [Memory.Call.failsBy_iff] at hfails
    exact absurd hfails (by cases code <;> decide)

end FaultPlan

end Hotplug
