import Hotplug.Node.Basic
import Hotplug.Proofs.Node.Scripted
import Hotplug.Proofs.Wait.Rounds
/-!
# Exchanges with the kernel

What is done with a descriptor comes to a series of calls, each with an answer. Two loops make calls
again: one until a call is not cut short, and one until a wait finds something or its time is up. Both
are described by the exchanges that they make.

## Main definitions

* `Hotplug.Exchange`: a call with its answer.
* `Hotplug.Kernel.Answers`, `Hotplug.Kernel.Talk`: what the kernel answers to one call, and to several.
* `Hotplug.Kernel.Restarts`: a call that a script can only cut short so often.
* `Hotplug.Kernel.asking`: asking for events until a deadline.

## Main statements

* `Hotplug.Kernel.Talk.scripted`: exchanges with an object whose answers are given beforehand.
* `Hotplug.Kernel.Restarts.restarting`: calls that are made until one is not cut short.
* `Hotplug.Kernel.asking_cases`: calls that are made until something is found.
* `Hotplug.Kernel.readable_cases`, `Hotplug.Kernel.writable_cases`: waits for input and for room.
-/

namespace Hotplug

/-- An action that is chosen by the state from which it runs. -/
theorem Action.Ends.chosen {σ α : Type} {state left : σ} {ending : Ending α} (f : σ → Action σ α)
    (h : (f state).Ends state ending left) : Ends (fun now => f now now) state ending left :=
  h

/-- A call on a descriptor, and what it was answered. -/
inductive Exchange
  /-- The answer is what was read. -/
  | read (length : Nat) (answer : Except Errno Bytes)
  /-- The answer is how many bytes were taken. -/
  | write (data : Bytes) (answer : Except Errno Nat)
  /-- The answer is the events that were found. -/
  | poll (wanted : Nat) (limit : Int) (answer : Except Errno Nat)

/-- The call. -/
def Exchange.call : Exchange → Syscall
  | read length _ => .read length
  | write data _ => .write data
  | poll wanted limit _ => .poll wanted limit

namespace CallScript

/-- The script has the answer of an exchange as its next one of the kind. -/
def Gives (script : CallScript) : Exchange → Prop
  | .read length answer =>
    answer = (nextAnswer (.error .badDescriptor) script.reads).map (·.take length)
  | .write data answer =>
    answer = (nextAnswer (.error .badDescriptor) script.writes).map (min · data.length)
  | .poll _ _ answer => answer = nextAnswer (.error .badDescriptor) script.polls

/-- What is left of the script after an exchange. -/
def after (script : CallScript) : Exchange → CallScript
  | .read .. => { script with reads := script.reads.drop 1 }
  | .write .. => { script with writes := script.writes.drop 1 }
  | .poll .. => { script with polls := script.polls.drop 1, pauses := script.pauses.drop 1 }

end CallScript

namespace Kernel

/-- The kernel answers a call on a descriptor. -/
inductive Answers (fd : Nat) (kernel : Kernel) : Exchange → Kernel → Prop
  | read {length : Nat} {answer : Except Errno Bytes} {later : Kernel}
    (h : (Kernel.read fd length).Ends kernel (.returned answer) later) :
    Answers fd kernel (.read length answer) later
  | write {data : Bytes} {answer : Except Errno Nat} {later : Kernel}
    (h : (Kernel.write fd data).Ends kernel (.returned answer) later) :
    Answers fd kernel (.write data answer) later
  | poll {wanted : Nat} {limit : Int} {answer : Except Errno Nat} {later : Kernel}
    (h : (Kernel.poll [fd] wanted limit).Ends kernel (.returned (answer.map ([·]))) later) :
    Answers fd kernel (.poll wanted limit answer) later

/-- The kernel answers calls on a descriptor, one after the other. -/
inductive Talk (fd : Nat) : Kernel → List Exchange → Kernel → Prop
  | refl (kernel : Kernel) : Talk fd kernel [] kernel
  | step {kernel middle later : Kernel} {exchange : Exchange} {log : List Exchange}
    (h : kernel.Answers fd exchange middle) (htalk : Talk fd middle log later) :
    Talk fd kernel (exchange :: log) later

variable {α β : Type} {fd : Nat} {kernel middle later : Kernel} {exchange : Exchange}
  {log more : List Exchange}

theorem Answers.talk (h : kernel.Answers fd exchange later) : kernel.Talk fd [exchange] later :=
  .step h (.refl later)

theorem Talk.append (h : kernel.Talk fd log middle) (hmore : middle.Talk fd more later) :
    kernel.Talk fd (log ++ more) later := by
  induction h with
  | refl => exact hmore
  | step h _ ih => exact .step h (ih hmore)

/-! ### Answers given beforehand -/

/-- An exchange with an object whose answers are given beforehand. -/
structure Scripted (kernel : Kernel) (exchange : Exchange) (later : Kernel) : Prop where
  gives : kernel.script.Gives exchange
  script : later.script = kernel.script.after exchange
  calls : later.calls = kernel.calls ++ [exchange.call]
  endpoints : later.endpoints = kernel.endpoints

theorem map_singleton_inj {ε α : Type} {a b : Except ε α} (h : a.map ([·]) = b.map ([·])) : a = b := by
  cases a <;> cases b <;> simp_all [Except.map]

theorem Answers.scripted (h : kernel.Answers fd exchange later)
    (hscripted : kernel.endpoint? fd = some .scripted) : kernel.Scripted exchange later := by
  cases h with
  | read h =>
    obtain ⟨hending, rfl⟩ := h
    rw [run_read_scripted hscripted] at hending ⊢
    exact ⟨(Ending.returned.inj hending).symm, rfl, rfl, rfl⟩
  | write h =>
    obtain ⟨hending, rfl⟩ := h
    rw [run_write_scripted hscripted] at hending ⊢
    exact ⟨(Ending.returned.inj hending).symm, rfl, rfl, rfl⟩
  | poll h =>
    obtain ⟨hending, rfl⟩ := h
    rw [run_poll_scripted hscripted] at hending ⊢
    exact ⟨(map_singleton_inj (Ending.returned.inj hending)).symm, rfl, rfl, rfl⟩

theorem Scripted.endpoint?_eq (h : kernel.Scripted exchange later) :
    later.endpoint? fd = kernel.endpoint? fd := by
  rw [endpoint?, h.endpoints, endpoint?]

/-- Exchanges with an object whose answers are given beforehand: the script has the answers in order,
and the calls are noted. -/
structure ScriptedTalk (kernel : Kernel) (log : List Exchange) (later : Kernel) : Prop where
  gives : ∀ earlier exchange rest, log = earlier ++ exchange :: rest →
    (earlier.foldl CallScript.after kernel.script).Gives exchange
  script : later.script = log.foldl CallScript.after kernel.script
  calls : later.calls = kernel.calls ++ log.map Exchange.call

theorem Talk.scripted (h : kernel.Talk fd log later)
    (hscripted : kernel.endpoint? fd = some .scripted) : kernel.ScriptedTalk log later := by
  induction h with
  | refl => exact ⟨by simp, rfl, (List.append_nil _).symm⟩
  | @step kernel middle later exchange log h _ ih =>
    have hfirst := h.scripted hscripted
    have hrest := ih (hfirst.endpoint?_eq.trans hscripted)
    refine ⟨fun earlier other rest heq => ?_, ?_, ?_⟩
    · rcases earlier with _ | ⟨first, earlier⟩
      · cases heq
        exact hfirst.gives
      · obtain ⟨rfl, htail⟩ := List.cons.inj heq
        have hgives := hrest.gives earlier other rest htail
        rwa [hfirst.script] at hgives
    · rw [hrest.script, hfirst.script]
      rfl
    · rw [hrest.calls, hfirst.calls, List.append_assoc]
      rfl

/-! ### Calls until one is not cut short -/

/-- A call that answers is not cut short unless its answers are given beforehand. -/
def Settled (fd : Nat) (kernel : Kernel) (ending : Ending (Except Errno α)) : Prop :=
  ∃ answer, ending = .returned answer ∧
    (answer = .error .interrupted → kernel.endpoint? fd = some .scripted)

theorem settled_read (kernel : Kernel) (fd length : Nat) :
    kernel.Settled fd ((Kernel.read fd length).run kernel).ending := by
  by_cases hscripted : kernel.endpoint? fd = some .scripted
  · exact ⟨_, congrArg Outcome.ending (run_read_scripted hscripted length), fun _ => hscripted⟩
  rw [Kernel.read, Action.run_bind_returned (Action.run_get kernel)]
  cases hendpoint : kernel.endpoint? fd with
  | none => exact ⟨.error .badDescriptor, rfl, fun heq => by cases heq⟩
  | some endpoint =>
    cases endpoint with
    | scripted => exact absurd hendpoint hscripted
    | file contents position => exact ⟨.ok _, rfl, fun heq => by cases heq⟩
    | stream stream =>
      dsimp only
      split
      · exact ⟨.ok [], rfl, fun heq => by cases heq⟩
      split
      · exact ⟨.ok _, rfl, fun heq => by cases heq⟩
      split
      · exact ⟨.error .connectionReset, rfl, fun heq => by cases heq⟩
      split
      · exact ⟨.error .again, rfl, fun heq => by cases heq⟩
      · exact ⟨.ok [], rfl, fun heq => by cases heq⟩

/-- A write is answered. No more bytes are taken than there are. -/
theorem write_answers (kernel : Kernel) (fd : Nat) (data : Bytes) :
    ∃ answer, ((Kernel.write fd data).run kernel).ending = .returned answer ∧
      (answer = .error .interrupted → kernel.endpoint? fd = some .scripted) ∧
      ∀ count, answer = .ok count → count ≤ data.length := by
  by_cases hscripted : kernel.endpoint? fd = some .scripted
  · refine ⟨_, congrArg Outcome.ending (run_write_scripted hscripted data), fun _ => hscripted, ?_⟩
    intro count heq
    cases hanswer : nextAnswer (.error .badDescriptor) kernel.script.writes with
    | error errno =>
      rw [hanswer] at heq
      cases heq
    | ok taken =>
      rw [hanswer] at heq
      cases heq
      exact Nat.min_le_right ..
  rw [Kernel.write, Action.run_bind_returned (Action.run_get kernel)]
  cases hendpoint : kernel.endpoint? fd with
  | none => exact ⟨.error .badDescriptor, rfl, (fun heq => by cases heq), fun _ heq => by cases heq⟩
  | some endpoint =>
    cases endpoint with
    | scripted => exact absurd hendpoint hscripted
    | file contents position =>
      exact ⟨.ok data.length, rfl, (fun heq => by cases heq),
        fun _ heq => Nat.le_of_eq (Except.ok.inj heq).symm⟩
    | stream stream =>
      dsimp only
      split
      · refine ⟨_, rfl, fun heq => ?_, fun count heq => ?_⟩
        · split at heq <;> cases heq
        · split at heq
          · cases heq
          · rw [← Except.ok.inj heq]
            exact Nat.sub_le ..
      · exact ⟨.error .brokenPipe, rfl, (fun heq => by cases heq), fun _ heq => by cases heq⟩

theorem settled_write (kernel : Kernel) (fd : Nat) (data : Bytes) :
    kernel.Settled fd ((Kernel.write fd data).run kernel).ending := by
  obtain ⟨answer, hending, hcut, -⟩ := kernel.write_answers fd data
  exact ⟨answer, hending, hcut⟩

/-- A call that is an exchange, and of which a script gives so many answers that `left` counts. -/
structure Restarts (fd : Nat) (call : Action Kernel (Except Errno α))
    (exchange : Except Errno α → Exchange) (left : CallScript → Nat) : Prop where
  settled : ∀ kernel : Kernel, kernel.Settled fd (call.run kernel).ending
  answers : ∀ kernel answer later, call.Ends kernel (.returned answer) later →
    kernel.Answers fd (exchange answer) later
  used : ∀ script : CallScript, script.Gives (exchange (.error .interrupted)) →
    left (script.after (exchange (.error .interrupted))) < left script

theorem restarts_read (fd length : Nat) :
    Restarts fd (Kernel.read fd length) (.read length) (·.reads.length) where
  settled kernel := settled_read kernel fd length
  answers _ _ _ h := .read h
  used script h := by
    cases hreads : script.reads with
    | nil =>
      rw [CallScript.Gives, hreads] at h
      cases h
    | cons answer rest => simp [CallScript.after, hreads]

theorem restarts_write (fd : Nat) (data : Bytes) :
    Restarts fd (Kernel.write fd data) (.write data) (·.writes.length) where
  settled kernel := settled_write kernel fd data
  answers _ _ _ h := .write h
  used script h := by
    cases hwrites : script.writes with
    | nil =>
      rw [CallScript.Gives, hwrites] at h
      cases h
    | cons answer rest => simp [CallScript.after, hwrites]

/-- The action returns the answer of the last of its calls, and all the calls before were cut short. -/
def GetsThrough (fd : Nat) (action : Action Kernel (Except Errno α))
    (exchange : Except Errno α → Exchange) (kernel : Kernel) : Prop :=
  ∃ cuts answer later, action.Ends kernel (.returned answer) later ∧ answer ≠ .error .interrupted ∧
    kernel.Talk fd (List.replicate cuts (exchange (.error .interrupted)) ++ [exchange answer]) later

theorem Restarts.uninterrupted {call : Action Kernel (Except Errno α)}
    {exchange : Except Errno α → Exchange} {left : CallScript → Nat}
    (h : Restarts fd call exchange left) {tries : Nat} (htries : left kernel.script < tries) :
    GetsThrough fd (Node.uninterrupted call tries) exchange kernel := by
  induction tries generalizing kernel with
  | zero => exact absurd htries (Nat.not_lt_zero _)
  | succ more ih =>
    obtain ⟨answer, hending, hscripted⟩ := h.settled kernel
    have hcall : call.Ends kernel (.returned answer) (call.run kernel).state := ⟨hending, rfl⟩
    have hanswers := h.answers kernel answer _ hcall
    by_cases hcut : answer = .error .interrupted
    · -- Only a script cuts a call short, and it has an answer less now.
      subst hcut
      have hgiven := hanswers.scripted (hscripted rfl)
      have hless := h.used _ hgiven.gives
      rw [← hgiven.script] at hless
      obtain ⟨cuts, last, later, hends, hlast, htalk⟩ :=
        ih (Nat.lt_of_lt_of_le hless (Nat.le_of_lt_succ htries))
      exact ⟨cuts + 1, last, later, hcall.bind hends, hlast, .step hanswers htalk⟩
    · refine ⟨0, answer, _, hcall.bind ?_, hcut, hanswers.talk⟩
      cases answer with
      | ok value => exact ⟨rfl, rfl⟩
      | error errno =>
        have hne : errno ≠ .interrupted := fun heq => hcut (congrArg _ heq)
        dsimp only
        rw [if_neg hne]
        exact ⟨rfl, rfl⟩

theorem Restarts.restarting {call : Action Kernel (Except Errno α)}
    {exchange : Except Errno α → Exchange} {left : CallScript → Nat}
    (h : Restarts fd call exchange left) (kernel : Kernel) : GetsThrough fd (Node.restarting left call) exchange kernel :=
  h.uninterrupted (Nat.lt_succ_self _)

/-! ### Waits -/

/-- The failure of a wait. -/
def pollFailure (errno : Errno) : Failure :=
  if errno = .noMemory then .memory else .system ("poll() failed: " ++ errno.text)

/-- A wait was cut short, or found nothing. -/
def Fruitless (answer : Except Errno Nat) : Prop :=
  answer = .error .interrupted ∨ answer = .ok 0

/-- What a wait for events makes of the events that were found on the one descriptor. -/
def readinessOf (wanted : Nat) : Except Errno Nat → Ending Readiness
  | .error errno =>
    if errno = .interrupted then .returned .interrupted else .failed (pollFailure errno)
  | .ok events =>
    if events = 0 then .returned .timedOut
    else .returned (.ready (if events &&& readyMask wanted ≠ 0 then [0] else []))

theorem ends_readiness (wanted : Nat) (answer : Except Errno Nat) (kernel : Kernel) :
    (readiness wanted (answer.map ([·]))).Ends kernel (readinessOf wanted answer) kernel := by
  cases answer with
  | error errno =>
    rw [Except.map, readiness, readinessOf, pollFailure]
    split
    · exact ⟨rfl, rfl⟩
    split
    · exact ⟨rfl, rfl⟩
    · exact ⟨rfl, rfl⟩
  | ok events =>
    by_cases hevents : events = 0
    · subst hevents
      exact ⟨rfl, rfl⟩
    · by_cases hwanted : events &&& readyMask wanted = 0
      · simp only [Except.map, readiness, readinessOf, List.all_cons, List.all_nil, hevents,
          decide_false, Bool.false_and, Bool.false_eq_true, if_false, List.zipIdx_singleton,
          List.filterMap_cons, List.filterMap_nil, hwanted, ne_eq, not_true_eq_false]
        exact ⟨rfl, rfl⟩
      · simp only [Except.map, readiness, readinessOf, List.all_cons, List.all_nil, hevents,
          decide_false, Bool.false_and, Bool.false_eq_true, if_false, List.zipIdx_singleton,
          List.filterMap_cons, List.filterMap_nil, hwanted, ne_eq, not_false_eq_true, if_true]
        exact ⟨rfl, rfl⟩

/-- A wait for one descriptor is answered, or nothing ever happens on it. -/
theorem poll_cases (kernel : Kernel) (fd wanted : Nat) (limit : Int) :
    (poll [fd] wanted limit).Ends kernel .unending kernel ∧ kernel.endpoint? fd ≠ some .scripted ∨
      ∃ (answer : Except Errno Nat) (later : Kernel),
        (poll [fd] wanted limit).Ends kernel (.returned (answer.map ([·]))) later ∧
          kernel.clock ≤ later.clock := by
  by_cases hscripted : kernel.endpoint? fd = some .scripted
  · have hrun := run_poll_scripted hscripted wanted limit
    exact .inr ⟨_, _, ⟨congrArg Outcome.ending hrun, congrArg Outcome.state hrun⟩, Nat.le_add_right ..⟩
  · have hnone : [(fd : Int)].any kernel.isScripted = false := by simp [isScripted, hscripted]
    have hpoll {ending : Ending (Except Errno (List Nat))} {later : Kernel}
        (h : (if [kernel.events fd &&& readyMask wanted].any (· ≠ 0) then
            return .ok [kernel.events fd &&& readyMask wanted]
          else if limit < 0 then Action.wait
          else do
            Action.modify fun k => { k with clock := k.clock + limit.toNat * Deadline.perMilli }
            return .ok [kernel.events fd &&& readyMask wanted] :
              Action Kernel (Except Errno (List Nat))).Ends kernel ending later) :
        (poll [fd] wanted limit).Ends kernel ending later := by
      refine .bind ⟨rfl, rfl⟩ ?_
      rw [hnone]
      exact h
    split at hpoll
    · exact .inr ⟨.ok _, kernel, hpoll ⟨rfl, rfl⟩, Nat.le_refl _⟩
    split at hpoll
    · exact .inl ⟨hpoll ⟨rfl, rfl⟩, hscripted⟩
    · exact .inr ⟨.ok _, _, hpoll ⟨rfl, rfl⟩, Nat.le_add_right ..⟩

theorem ends_left (deadline : Deadline) (kernel : Kernel) :
    (native.left deadline).Ends kernel (.returned (deadline.remaining kernel.clock)) kernel := by
  obtain ⟨_ | moment⟩ := deadline <;> exact ⟨rfl, rfl⟩

theorem ends_isOver (deadline : Deadline) (kernel : Kernel) :
    (native.isOver deadline).Ends kernel (.returned (deadline.isPast kernel.clock)) kernel := by
  obtain ⟨_ | moment⟩ := deadline <;> exact ⟨rfl, rfl⟩

theorem ends_begin (limit : Int) (kernel : Kernel) :
    (native.begin limit).Ends kernel (.returned (.ofLimit limit kernel.clock)) kernel := by
  unfold Primitive.begin
  split
  · next hlimit =>
    rw [Deadline.ofLimit, if_pos hlimit]
    exact ⟨rfl, rfl⟩
  · exact ⟨rfl, rfl⟩

/-- Asks for events on a descriptor once. -/
def ask (wanted fd : Nat) (limit : Int) : Action Kernel Readiness := do
  readiness wanted (← poll [fd] wanted (max limit (-1)))

/-- Asks for events on a descriptor until something is found or a deadline has come, at most so many
times. -/
def asking (wanted fd : Nat) (deadline : Deadline) (late : α) (found : List Nat → α) :
    Nat → Action Kernel α
  | 0 => Action.wait
  | more + 1 => do
    let remaining ← native.left deadline
    match ← ask wanted fd remaining with
    | .ready places => return found places
    | .timedOut | .interrupted =>
      let isLate ← native.isOver deadline
      if isLate ∨ remaining = 0 then return late
      else asking wanted fd deadline late found more

theorem attempts_eq_asking (fd patience : Nat) (slice : Int) (deadline : Deadline) (tries : Nat) :
    native.attempts patience [.fd fd] slice deadline tries =
      asking pollIn fd deadline [] id tries := by
  induction tries with
  | zero => rfl
  | succ more ih =>
    rw [Primitive.attempts, asking, ih]
    rfl

theorem outputAttempts_eq_asking (fd : Nat) (deadline : Deadline) (tries : Nat) :
    native.outputAttempts fd deadline tries =
      asking pollOut fd deadline false (fun _ => true) tries := by
  induction tries with
  | zero => rfl
  | succ more ih =>
    rw [NativeWait.outputAttempts, asking, ih]
    rfl

/-- A wait for the events wanted, without a limit if there is no deadline. -/
def Asks (wanted : Nat) (deadline : Deadline) (answer : Except Errno Nat) (exchange : Exchange) :
    Prop :=
  ∃ limit, exchange = .poll wanted limit answer ∧ (deadline.moment = none → limit = -1)

/-- What comes of asking, from the last answer and the time: asking goes on after an answer without
fruit only until the deadline. -/
inductive Concludes (wanted : Nat) (deadline : Deadline) (late : α) (found : List Nat → α)
    (clock : Nat) : Except Errno Nat → Ending α → Prop
  | expired {answer : Except Errno Nat} (hfruitless : Fruitless answer)
    (hpast : deadline.isPast clock = true) :
    Concludes wanted deadline late found clock answer (.returned late)
  | found {events : Nat} (hevents : events ≠ 0) :
    Concludes wanted deadline late found clock (.ok events)
      (.returned (found (if events &&& readyMask wanted ≠ 0 then [0] else [])))
  | refused {errno : Errno} (herrno : errno ≠ .interrupted) :
    Concludes wanted deadline late found clock (.error errno) (.failed (pollFailure errno))

/-- Waits without fruit came before the last one, and the ending comes of the last one. -/
def Asked (fd wanted : Nat) (deadline : Deadline) (late : α) (found : List Nat → α)
    (kernel : Kernel) (ending : Ending α) (later : Kernel) : Prop :=
  ∃ waits last answer, (∀ wait ∈ waits, ∃ answer, Fruitless answer ∧ Asks wanted deadline answer wait) ∧
    Asks wanted deadline answer last ∧ kernel.Talk fd (waits ++ [last]) later ∧
    Concludes wanted deadline late found later.clock answer ending

variable {wanted : Nat} {deadline : Deadline} {late : α} {found : List Nat → α}

theorem Asked.cons {ending : Ending α} (h : middle.Asked fd wanted deadline late found ending later)
    {answer : Except Errno Nat} (hfruitless : Fruitless answer)
    (hasks : Asks wanted deadline answer exchange) (hanswers : kernel.Answers fd exchange middle) :
    kernel.Asked fd wanted deadline late found ending later := by
  obtain ⟨waits, last, final, hwaits, hlast, htalk, hconcludes⟩ := h
  exact ⟨exchange :: waits, last, final, List.forall_mem_cons.2 ⟨⟨answer, hfruitless, hasks⟩, hwaits⟩,
    hlast, .step hanswers htalk, hconcludes⟩

/-- A script that answers a wait without fruit had an answer left. -/
theorem Scripted.polls_of_fruitless {limit : Int} {answer : Except Errno Nat}
    (h : kernel.Scripted (.poll wanted limit answer) later) (hfruitless : Fruitless answer) :
    kernel.script.polls.length = later.script.polls.length + 1 := by
  have hgives := h.gives
  rw [h.script]
  cases hpolls : kernel.script.polls with
  | nil =>
    rw [CallScript.Gives, hpolls] at hgives
    subst hgives
    rcases hfruitless with heq | heq <;> cases heq
  | cons first rest => simp [CallScript.after, hpolls]

/-- The limit of a wait is what is left of the deadline. -/
theorem asks_poll (wanted : Nat) (deadline : Deadline) (answer : Except Errno Nat) (clock : Nat) :
    Asks wanted deadline answer (.poll wanted (max (deadline.remaining clock) (-1)) answer) := by
  refine ⟨_, rfl, fun hnone => ?_⟩
  obtain ⟨moment⟩ := deadline
  obtain rfl : moment = none := hnone
  rfl

/-- After an answer without fruit it depends on the deadline whether asking goes on. -/
theorem asking_again {more : Nat} {answer : Except Errno Nat} {ending : Ending α} {left : Kernel}
    (hfruitless : Fruitless answer)
    (hask : (ask wanted fd (deadline.remaining kernel.clock)).Ends kernel (readinessOf wanted answer)
      later)
    (h : (native.isOver deadline >>= fun isLate =>
      if isLate ∨ deadline.remaining kernel.clock = 0 then pure late
      else asking wanted fd deadline late found more).Ends later ending left) :
    (asking wanted fd deadline late found (more + 1)).Ends kernel ending left := by
  have hleft := ends_left deadline kernel
  rcases hfruitless with rfl | rfl
  · have hcut : (ask wanted fd _).Ends kernel (.returned .interrupted) later := hask
    exact hleft.bind (hcut.bind h)
  · have hnothing : (ask wanted fd _).Ends kernel (.returned .timedOut) later := hask
    exact hleft.bind (hnothing.bind h)

/-- Asking goes on forever only if nothing ever happens, or if there are more answers to come than
times to ask. Otherwise it ends as the answers say. -/
theorem asking_cases (tries : Nat) (kernel : Kernel) :
    (∃ later, (asking wanted fd deadline late found tries).Ends kernel .unending later ∧
        (kernel.endpoint? fd = some .scripted → tries ≤ kernel.script.polls.length)) ∨
      ∃ ending later, (asking wanted fd deadline late found tries).Ends kernel ending later ∧
        kernel.Asked fd wanted deadline late found ending later := by
  induction tries generalizing kernel with
  | zero => exact .inl ⟨kernel, ⟨rfl, rfl⟩, fun _ => Nat.zero_le _⟩
  | succ more ih =>
    have hleft := ends_left deadline kernel
    rcases poll_cases kernel fd wanted (max (deadline.remaining kernel.clock) (-1)) with
      ⟨hpoll, hother⟩ | ⟨answer, later, hpoll, hclock⟩
    · exact .inl ⟨kernel, hleft.bind (.bind_unending (.bind_unending hpoll)),
        fun hscripted => absurd hscripted hother⟩
    have hask : (ask wanted fd (deadline.remaining kernel.clock)).Ends kernel
        (readinessOf wanted answer) later := hpoll.bind (ends_readiness wanted answer later)
    have hanswers : kernel.Answers fd (.poll wanted _ answer) later := .poll hpoll
    have hasks := asks_poll wanted deadline answer kernel.clock
    have direct {ending : Ending α}
        (hconcludes : Concludes wanted deadline late found later.clock answer ending) :
        kernel.Asked fd wanted deadline late found ending later :=
      ⟨[], _, answer, by simp, hasks, hanswers.talk, hconcludes⟩
    by_cases hfruitless : Fruitless answer
    · have hisOver := ends_isOver deadline later
      by_cases hover : deadline.isPast later.clock = true ∨ deadline.remaining kernel.clock = 0
      · refine .inr ⟨_, later, asking_again hfruitless hask (hisOver.bind ?_),
          direct (.expired hfruitless ?_)⟩
        · rw [if_pos hover]
          exact ⟨rfl, rfl⟩
        · exact hover.elim id fun hnone =>
            Deadline.isPast_mono (Deadline.remaining_eq_zero_iff.1 hnone) hclock
      · rcases ih later with ⟨left, hends, hbound⟩ | ⟨ending, left, hends, hasked⟩
        · refine .inl ⟨left, asking_again hfruitless hask (hisOver.bind ?_), fun hscripted => ?_⟩
          · rw [if_neg hover]
            exact hends
          · have hgiven := hanswers.scripted hscripted
            have hmore := hbound (hgiven.endpoint?_eq.trans hscripted)
            rw [hgiven.polls_of_fruitless hfruitless]
            exact Nat.succ_le_succ hmore
        · refine .inr ⟨ending, left, asking_again hfruitless hask (hisOver.bind ?_),
            hasked.cons hfruitless hasks hanswers⟩
          rw [if_neg hover]
          exact hends
    · cases answer with
      | error errno =>
        have herrno : errno ≠ .interrupted := fun heq => hfruitless (.inl (congrArg _ heq))
        rw [readinessOf, if_neg herrno] at hask
        exact .inr ⟨_, later, hleft.bind (.bind_failed hask), direct (.refused herrno)⟩
      | ok events =>
        have hevents : events ≠ 0 := fun heq => hfruitless (.inr (congrArg _ heq))
        rw [readinessOf, if_neg hevents] at hask
        exact .inr ⟨_, later, hleft.bind (hask.bind ⟨rfl, rfl⟩), direct (.found hevents)⟩

theorem Asked.map {ending : Ending α} (f : α → β)
    (h : kernel.Asked fd wanted deadline late found ending later) :
    kernel.Asked fd wanted deadline (f late) (fun places => f (found places)) (ending.map f) later := by
  obtain ⟨waits, last, answer, hwaits, hlast, htalk, hconcludes⟩ := h
  refine ⟨waits, last, answer, hwaits, hlast, htalk, ?_⟩
  cases hconcludes with
  | expired hfruitless hpast => exact .expired hfruitless hpast
  | found hevents => exact .found hevents
  | refused herrno => exact .refused herrno

theorem lt_patience (limit : Int) (kernel : Kernel) :
    kernel.script.polls.length < native.patience limit kernel := by
  change _ < kernel.script.polls.length + limit.toNat + 2
  omega

theorem ends_waitAll {objects : List Waitable} {limit slice : Int} {ending : Ending (List Nat)}
    (h : (native.attempts (native.patience limit kernel) objects slice (.ofLimit limit kernel.clock)
      (native.patience limit kernel)).Ends kernel ending later) :
    (native.waitAll objects limit slice).Ends kernel ending later := by
  have hwithin : (native.waitWithin (native.patience limit kernel) objects limit slice).Ends kernel
      ending later := (ends_begin limit kernel).bind h
  unfold Primitive.waitAll
  exact hwithin.chosen fun now => native.waitWithin (native.patience limit now) objects limit slice

/-- A wait for input asks until its limit runs out. -/
theorem readable_cases (kernel : Kernel) (fd : Nat) (limit : Int) :
    (∃ later, (native.readable (.fd fd) limit).Ends kernel .unending later ∧
        kernel.endpoint? fd ≠ some .scripted) ∨
      ∃ ending later, (native.readable (.fd fd) limit).Ends kernel ending later ∧
        kernel.Asked fd pollIn (.ofLimit limit kernel.clock) false (fun places => !places.isEmpty)
          ending later := by
  have hreadable {ending : Ending (List Nat)} {later : Kernel}
      (h : (asking pollIn fd (.ofLimit limit kernel.clock) [] id (native.patience limit kernel)).Ends
        kernel ending later) :
      (native.readable (.fd fd) limit).Ends kernel (ending.map fun places => !places.isEmpty) later := by
    rw [← attempts_eq_asking fd (native.patience limit kernel) standardSlice] at h
    have hwait := ends_waitAll h
    have hvalid : (Waitable.fd fd).isValid = true := by simp [Waitable.isValid]
    unfold NativeWait.readable
    simp only [hvalid, Bool.not_true, Bool.false_eq_true, if_false]
    rw [Action.Ends, Action.run_bind_pure, hwait.1, hwait.2]
    exact ⟨rfl, rfl⟩
  rcases asking_cases (native.patience limit kernel) kernel with ⟨later, hends, hbound⟩ |
    ⟨ending, later, hends, hasked⟩
  · exact .inl ⟨later, hreadable hends,
      fun hscripted => Nat.not_le.2 (lt_patience limit kernel) (hbound hscripted)⟩
  · exact .inr ⟨_, later, hreadable hends, hasked.map fun (places : List Nat) => !places.isEmpty⟩

/-- A wait for room asks until its limit runs out. -/
theorem writable_cases (kernel : Kernel) (fd : Nat) (limit : Int) :
    (∃ later, (native.writable (.fd fd) limit).Ends kernel .unending later ∧
        kernel.endpoint? fd ≠ some .scripted) ∨
      ∃ ending later, (native.writable (.fd fd) limit).Ends kernel ending later ∧
        kernel.Asked fd pollOut (.ofLimit limit kernel.clock) false (fun _ => true) ending later := by
  have hwritable {ending : Ending Bool} {later : Kernel}
      (h : (asking pollOut fd (.ofLimit limit kernel.clock) false (fun _ => true)
        (native.patience limit kernel)).Ends kernel ending later) :
      (native.writable (.fd fd) limit).Ends kernel ending later := by
    have hvalid : ¬(fd : Int) < 0 := Int.not_lt.2 (Int.natCast_nonneg fd)
    rw [← outputAttempts_eq_asking] at h
    unfold NativeWait.writable
    simp only [hvalid, if_false]
    refine (ends_begin limit kernel).bind ?_
    exact h.chosen fun now => native.outputAttempts fd _ (native.patience limit now)
  rcases asking_cases (native.patience limit kernel) kernel with ⟨later, hends, hbound⟩ |
    ⟨ending, later, hends, hasked⟩
  · exact .inl ⟨later, hwritable hends,
      fun hscripted => Nat.not_le.2 (lt_patience limit kernel) (hbound hscripted)⟩
  · exact .inr ⟨ending, later, hwritable hends, hasked⟩

end Kernel

end Hotplug
