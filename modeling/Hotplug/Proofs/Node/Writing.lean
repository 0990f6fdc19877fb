import Hotplug.Proofs.Node.Exchanges
/-!
# Writes that make progress once

A blocking write writes until bytes are taken. A write that is cut short is made again at once; after
one that takes nothing the node is asked for room, without a limit. No byte is written again after it
was taken: the write that takes bytes is the last call.

## Main definitions

* `Hotplug.Node.Course`: the exchanges of a blocking write, one after the other.
* `Hotplug.Node.Written`: what a blocking write tells of its exchanges with the kernel.

## Main statements

* `Hotplug.Node.writeAttempts_cases`: a blocking write takes its course.
* `Hotplug.Node.writeBlocking_once`: what every blocking write tells.
-/

namespace Hotplug

variable {kernel later : Kernel} {fd count : Nat} {data : Bytes} {answer : Except Errno Nat}
  {exchange : Exchange} {log before : List Exchange}

/-- A write took nothing, since there is no room. -/
def Stalled (answer : Except Errno Nat) : Prop :=
  answer = .error .again ∨ answer = .ok 0

namespace Exchange

/-- A write took bytes. -/
def Takes (exchange : Exchange) : Prop :=
  ∃ data count, exchange = .write data (.ok count) ∧ count ≠ 0

/-- A write found the device gone. -/
def FindsGone (exchange : Exchange) : Prop :=
  ∃ data errno, exchange = .write data (.error errno) ∧ (errno = .ioError ∨ errno = .noSuchDevice)

/-- The exchange is a wait or a write that can be made again. -/
def Idle : Exchange → Prop
  | .read .. => False
  | .write _ answer => answer = .error .interrupted ∨ Stalled answer
  | .poll .. => True

theorem Idle.not_takes (h : exchange.Idle) : ¬ exchange.Takes := by
  rintro ⟨data, count, rfl, hcount⟩
  rcases h with heq | heq | heq <;> cases heq
  exact hcount rfl

theorem Idle.not_findsGone (h : exchange.Idle) : ¬ exchange.FindsGone := by
  rintro ⟨data, errno, rfl, hgone⟩
  rcases h with heq | heq | heq <;> cases heq
  · exact hgone.elim nofun nofun
  · exact hgone.elim nofun nofun

end Exchange

/-! ### Writes that a script still answers -/

namespace CallScript

theorem after_writes_le (script : CallScript) (exchange : Exchange) :
    (script.after exchange).writes.length ≤ script.writes.length := by
  cases exchange with
  | read | poll => exact Nat.le_refl _
  | write => simp [after]

theorem foldl_after_writes_le (script : CallScript) (log : List Exchange) :
    (log.foldl after script).writes.length ≤ script.writes.length := by
  induction log generalizing script with
  | nil => exact Nat.le_refl _
  | cons exchange rest ih => exact (ih _).trans (script.after_writes_le exchange)

end CallScript

namespace Kernel

theorem Talk.answered (h : kernel.Talk fd log later) (hmem : exchange ∈ log) :
    ∃ earlier after : Kernel, earlier.Answers fd exchange after := by
  induction h with
  | refl => cases hmem
  | step h _ ih =>
    rcases List.mem_cons.1 hmem with rfl | hmem
    · exact ⟨_, _, h⟩
    · exact ih hmem

theorem Talk.stays_scripted (h : kernel.Talk fd log later)
    (hscripted : kernel.endpoint? fd = some .scripted) : later.endpoint? fd = some .scripted := by
  induction h with
  | refl => exact hscripted
  | step h _ ih => exact ih ((h.scripted hscripted).endpoint?_eq.trans hscripted)

theorem Answers.count_le (h : kernel.Answers fd (.write data (.ok count)) later) :
    count ≤ data.length := by
  cases h with
  | write h =>
    obtain ⟨answer, hending, -, hle⟩ := kernel.write_answers fd data
    exact hle count (Ending.returned.inj (hending.symm.trans h.1))

theorem ScriptedTalk.writes_le (h : kernel.ScriptedTalk log later) :
    later.script.writes.length ≤ kernel.script.writes.length := by
  rw [h.script]
  exact kernel.script.foldl_after_writes_le log

/-- A script that answers a write with no room had an answer left. -/
theorem ScriptedTalk.writes_lt (h : kernel.ScriptedTalk (before ++ [.write data answer]) later)
    (hstalled : Stalled answer) : later.script.writes.length < kernel.script.writes.length := by
  have hgives := h.gives before _ [] rfl
  have hle := kernel.script.foldl_after_writes_le before
  rw [h.script, List.foldl_append]
  refine Nat.lt_of_lt_of_le ?_ hle
  cases hwrites : (before.foldl CallScript.after kernel.script).writes with
  | nil =>
    rw [CallScript.Gives, hwrites] at hgives
    subst hgives
    rcases hstalled with heq | heq <;> cases heq
  | cons first rest => simp [CallScript.after, hwrites]

end Kernel

namespace Node

open Kernel

variable {node : Node} {middle : Kernel} {ending : Ending Nat}

/-! ### The course of a blocking write -/

/-- What a blocking write does next. -/
inductive Phase
  /-- It writes. -/
  | writing
  /-- It asks for room. -/
  | waiting

/-- The exchanges of a blocking write from some phase on, and how it ends. -/
inductive Course (node : Node) (data : Bytes) : Phase → List Exchange → Ending Nat → Prop
  | cut {rest : List Exchange} {ending : Ending Nat} (h : Course node data .writing rest ending) :
    Course node data .writing (.write data (.error .interrupted) :: rest) ending
  | taken {count : Nat} (hcount : count ≠ 0) (hle : count ≤ data.length) :
    Course node data .writing [.write data (.ok count)] (.returned count)
  | refused {errno : Errno} (hcut : errno ≠ .interrupted) (hstalled : errno ≠ .again) :
    Course node data .writing [.write data (.error errno)] (.failed (node.writeFailure errno))
  | stalled {answer : Except Errno Nat} {rest : List Exchange} {ending : Ending Nat}
    (hanswer : Stalled answer) (h : Course node data .waiting rest ending) :
    Course node data .writing (.write data answer :: rest) ending
  | fruitless {answer : Except Errno Nat} {rest : List Exchange} {ending : Ending Nat}
    (hanswer : Fruitless answer) (h : Course node data .waiting rest ending) :
    Course node data .waiting (.poll pollOut (-1) answer :: rest) ending
  | room {events : Nat} {rest : List Exchange} {ending : Ending Nat} (hevents : events ≠ 0)
    (h : Course node data .writing rest ending) :
    Course node data .waiting (.poll pollOut (-1) (.ok events) :: rest) ending
  | waitRefused {errno : Errno} (hcut : errno ≠ .interrupted) :
    Course node data .waiting [.poll pollOut (-1) (.error errno)] (.failed (pollFailure errno))

/-- The last exchange of a blocking write, and how it ends. -/
inductive Closes (node : Node) (data : Bytes) : Exchange → Ending Nat → Prop
  | taken {count : Nat} (hcount : count ≠ 0) (hle : count ≤ data.length) :
    Closes node data (.write data (.ok count)) (.returned count)
  | refused {errno : Errno} :
    Closes node data (.write data (.error errno)) (.failed (node.writeFailure errno))
  | waitRefused {errno : Errno} :
    Closes node data (.poll pollOut (-1) (.error errno)) (.failed (pollFailure errno))

theorem writeFailure_code (node : Node) (errno : Errno) :
    (node.writeFailure errno).code = .io ↔ errno = .ioError ∨ errno = .noSuchDevice := by
  simp only [writeFailure, Errno.isTransferError, decide_eq_true_eq]
  split
  · next h => exact ⟨fun _ => h, fun _ => rfl⟩
  · next h => exact ⟨nofun, fun hgone => absurd hgone h⟩

theorem pollFailure_code (errno : Errno) : (pollFailure errno).code ≠ .io := by
  unfold pollFailure
  split
  · nofun
  · nofun

/-- A blocking write that fails took nothing with its last call either. -/
theorem Closes.of_failed {last : Exchange} {failure : Failure}
    (h : node.Closes data last (.failed failure)) :
    ¬ last.Takes ∧ (failure.code = .io ↔ last.FindsGone) := by
  cases h with
  | @refused errno =>
    refine ⟨?_, (node.writeFailure_code errno).trans ⟨fun hgone => ⟨data, errno, rfl, hgone⟩, ?_⟩⟩
    · rintro ⟨bytes, count, heq, -⟩
      cases heq
    · rintro ⟨bytes, errno, heq, hgone⟩
      cases heq
      exact hgone
  | @waitRefused errno =>
    refine ⟨?_, fun hio => absurd hio (pollFailure_code errno), ?_⟩
    · rintro ⟨bytes, count, heq, -⟩
      cases heq
    · rintro ⟨bytes, errno, heq, -⟩
      cases heq

/-- Waits for room: the ones before the last did not find any. -/
def Waits (rest : List Exchange) : Prop :=
  ∃ waits answer more, rest = waits ++ .poll pollOut (-1) answer :: more ∧
    (∀ wait ∈ waits, ∃ answer, wait = .poll pollOut (-1) answer ∧ Fruitless answer) ∧
    ¬ Fruitless answer ∧ ((∃ errno, answer = .error errno) → more = [])

/-- What a blocking write tells of its exchanges with the kernel. -/
structure Written (node : Node) (data : Bytes) (kernel : Kernel) (log : List Exchange)
    (ending : Ending Nat) (later : Kernel) : Prop where
  talk : kernel.Talk node.fd log later
  ends : ending ≠ .unending
  /-- Nothing but writes of all the data and waits for room, without a limit, is exchanged. -/
  calls : ∀ exchange ∈ log, (∃ answer, exchange = .write data answer) ∨
    ∃ answer, exchange = .poll pollOut (-1) answer
  /-- What is answered is what one write took, and this was the last call. -/
  taken : ∀ count, ending = .returned count → 1 ≤ count ∧ count ≤ data.length ∧
    ∃ before, log = before ++ [.write data (.ok count)] ∧ ∀ exchange ∈ before, ¬ exchange.Takes
  /-- After a failure nothing was written. It is a failed transfer if the device was found gone. -/
  failed : ∀ failure, ending = .failed failure → (∀ exchange ∈ log, ¬ exchange.Takes) ∧
    (failure.code = .io ↔ ∃ exchange ∈ log, exchange.FindsGone)
  /-- After a write that took nothing come waits for room. -/
  stalled : ∀ answer rest, .write data answer :: rest <:+ log → Stalled answer → Waits rest

namespace Course

variable {phase : Phase} {rest waits : List Exchange}

/-- Nothing but writes of the data and waits for room is exchanged. -/
theorem mem_cases (h : node.Course data phase log ending) (hmem : exchange ∈ log) :
    (∃ answer, exchange = .write data answer) ∨ ∃ answer, exchange = .poll pollOut (-1) answer := by
  induction h with
  | taken | refused => exact .inl ⟨_, List.mem_singleton.1 hmem⟩
  | waitRefused => exact .inr ⟨_, List.mem_singleton.1 hmem⟩
  | cut _ ih | stalled _ _ ih =>
    rcases List.mem_cons.1 hmem with heq | hmem
    · exact .inl ⟨_, heq⟩
    · exact ih hmem
  | fruitless _ _ ih | room _ _ ih =>
    rcases List.mem_cons.1 hmem with heq | hmem
    · exact .inr ⟨_, heq⟩
    · exact ih hmem

/-- All exchanges but the last are idle. -/
theorem closes (h : node.Course data phase log ending) :
    ∃ before last, log = before ++ [last] ∧ (∀ exchange ∈ before, exchange.Idle) ∧
      node.Closes data last ending := by
  have cons {first : Exchange} {rest : List Exchange} {ending : Ending Nat} (hfirst : first.Idle)
      (ih : ∃ before last, rest = before ++ [last] ∧ (∀ exchange ∈ before, exchange.Idle) ∧
        node.Closes data last ending) :
      ∃ before last, first :: rest = before ++ [last] ∧ (∀ exchange ∈ before, exchange.Idle) ∧
        node.Closes data last ending := by
    obtain ⟨before, last, rfl, hbefore, hlast⟩ := ih
    exact ⟨first :: before, last, rfl, List.forall_mem_cons.2 ⟨hfirst, hbefore⟩, hlast⟩
  induction h with
  | taken hcount hle => exact ⟨[], _, rfl, by simp, .taken hcount hle⟩
  | refused => exact ⟨[], _, rfl, by simp, .refused⟩
  | waitRefused => exact ⟨[], _, rfl, by simp, .waitRefused⟩
  | cut _ ih => exact cons (.inl rfl) ih
  | stalled hanswer _ ih => exact cons (.inr hanswer) ih
  | fruitless _ _ ih | room _ _ ih => exact cons trivial ih

/-- After a write that took nothing the node is asked for room. -/
theorem after_stalled (h : node.Course data phase log ending)
    (hsuffix : .write data answer :: rest <:+ log) (hstalled : Stalled answer) :
    node.Course data .waiting rest ending := by
  induction h with
  | cut _ ih =>
    rcases List.suffix_cons_iff.1 hsuffix with heq | hsuffix
    · cases heq
      rcases hstalled with heq | heq <;> cases heq
    · exact ih hsuffix
  | taken hcount =>
    rcases List.suffix_cons_iff.1 hsuffix with heq | hsuffix
    · cases heq
      rcases hstalled with heq | heq <;> cases heq
      exact absurd rfl hcount
    · cases List.suffix_nil.1 hsuffix
  | refused _ hagain =>
    rcases List.suffix_cons_iff.1 hsuffix with heq | hsuffix
    · cases heq
      rcases hstalled with heq | heq <;> cases heq
      exact absurd rfl hagain
    · cases List.suffix_nil.1 hsuffix
  | stalled _ h ih =>
    rcases List.suffix_cons_iff.1 hsuffix with heq | hsuffix
    · cases heq
      exact h
    · exact ih hsuffix
  | fruitless _ _ ih | room _ _ ih =>
    rcases List.suffix_cons_iff.1 hsuffix with heq | hsuffix
    · cases heq
    · exact ih hsuffix
  | waitRefused =>
    rcases List.suffix_cons_iff.1 hsuffix with heq | hsuffix
    · cases heq
    · cases List.suffix_nil.1 hsuffix

theorem waits_of_waiting (h : node.Course data .waiting rest ending) : Waits rest := by
  generalize hphase : Phase.waiting = phase at h
  induction h with
  | cut | taken | refused | stalled => cases hphase
  | @fruitless answer rest ending hanswer h ih =>
    obtain ⟨waits, final, more, rfl, hwaits, hfinal⟩ := ih rfl
    exact ⟨_ :: waits, final, more, rfl, List.forall_mem_cons.2 ⟨⟨answer, rfl, hanswer⟩, hwaits⟩,
      hfinal⟩
  | @room events rest ending hevents h =>
    refine ⟨[], .ok events, rest, rfl, by simp, ?_, by simp⟩
    rintro (heq | heq) <;> cases heq
    exact hevents rfl
  | @waitRefused errno hcut =>
    refine ⟨[], .error errno, [], rfl, by simp, ?_, fun _ => rfl⟩
    rintro (heq | heq) <;> cases heq
    exact hcut rfl

theorem written (h : node.Course data phase log ending) (htalk : kernel.Talk node.fd log later) :
    node.Written data kernel log ending later := by
  obtain ⟨before, last, rfl, hbefore, hcloses⟩ := h.closes
  exact {
    talk := htalk
    ends := by cases hcloses <;> nofun
    calls := fun exchange hmem => h.mem_cases hmem
    taken := fun count heq => by
      cases hcloses with
      | taken hcount hle =>
        cases heq
        exact ⟨Nat.pos_of_ne_zero hcount, hle, before, rfl,
          fun exchange hmem => (hbefore _ hmem).not_takes⟩
      | refused | waitRefused => cases heq
    failed := fun failure heq => by
      subst heq
      obtain ⟨hnothing, hcode⟩ := hcloses.of_failed
      rw [hcode]
      refine ⟨fun exchange hmem => ?_, fun hgone => ⟨last, by simp, hgone⟩, ?_⟩
      · rcases List.mem_append.1 hmem with hmem | hmem
        · exact (hbefore _ hmem).not_takes
        · rwa [List.mem_singleton.1 hmem]
      · rintro ⟨exchange, hmem, hgone⟩
        rcases List.mem_append.1 hmem with hmem | hmem
        · exact absurd hgone (hbefore _ hmem).not_findsGone
        · rwa [← List.mem_singleton.1 hmem]
    stalled := fun answer rest hsuffix hstalled =>
      (h.after_stalled hsuffix hstalled).waits_of_waiting }

/-- Writes that are cut short are made again. -/
theorem cuts (h : node.Course data .writing rest ending) (cuts : Nat) :
    node.Course data .writing
      (List.replicate cuts (.write data (.error .interrupted)) ++ rest) ending := by
  induction cuts with
  | zero => exact h
  | succ more ih => exact .cut ih

/-- Waits without a limit that come to nothing are made again. -/
theorem waiting (h : node.Course data .waiting rest ending)
    (hwaits : ∀ wait ∈ waits, ∃ answer, Fruitless answer ∧ Asks pollOut ⟨none⟩ answer wait) :
    node.Course data .waiting (waits ++ rest) ending := by
  induction waits with
  | nil => exact h
  | cons wait more ih =>
    obtain ⟨⟨answer, hanswer, limit, rfl, hlimit⟩, hmore⟩ := List.forall_mem_cons.1 hwaits
    rw [hlimit rfl]
    exact .fruitless hanswer (ih hmore)

end Course

/-! ### What the calls come to -/

/-- A write that comes to an end took nothing, or takes the whole course. -/
theorem writeOnce_cases (node : Node) (data : Bytes) (kernel : Kernel) :
    (∃ cuts answer later, (node.writeOnce data).Ends kernel (.returned 0) later ∧ Stalled answer ∧
        kernel.Talk node.fd
          (List.replicate cuts (.write data (.error .interrupted)) ++ [.write data answer]) later) ∨
      ∃ log ending later, (node.writeOnce data).Ends kernel ending later ∧ ending ≠ .returned 0 ∧
        kernel.Talk node.fd log later ∧ node.Course data .writing log ending := by
  obtain ⟨cuts, answer, later, hends, hanswer, htalk⟩ :=
    (restarts_write node.fd data).restarting kernel
  cases answer with
  | ok count =>
    by_cases hcount : count = 0
    · subst hcount
      exact .inl ⟨cuts, .ok 0, later, hends.bind ⟨rfl, rfl⟩, .inr rfl, htalk⟩
    · obtain ⟨earlier, after, hlast⟩ :=
        htalk.answered (List.mem_append_right _ (List.mem_singleton_self _))
      refine .inr ⟨_, .returned count, later, hends.bind ⟨rfl, rfl⟩, by simpa using hcount, htalk, ?_⟩
      exact Course.cuts (.taken hcount hlast.count_le) cuts
  | error errno =>
    by_cases hagain : errno = .again
    · subst hagain
      exact .inl ⟨cuts, .error .again, later, hends.bind ⟨rfl, rfl⟩, .inl rfl, htalk⟩
    · refine .inr ⟨_, .failed (node.writeFailure errno), later, hends.bind ?_, nofun, htalk, ?_⟩
      · simp only [if_neg hagain]
        exact ⟨rfl, rfl⟩
      · exact Course.cuts (.refused (fun heq => hanswer (congrArg _ heq)) hagain) cuts

/-- A blocking write takes its course. It goes on forever only if there never is room, or if there are
more answers to come than times to write. -/
theorem writeAttempts_cases (node : Node) (data : Bytes) (tries : Nat) (kernel : Kernel) :
    (∃ later, (node.writeAttempts data tries).Ends kernel .unending later ∧
        (kernel.endpoint? node.fd = some .scripted → tries ≤ kernel.script.writes.length)) ∨
      ∃ log ending later, (node.writeAttempts data tries).Ends kernel ending later ∧
        kernel.Talk node.fd log later ∧ node.Course data .writing log ending := by
  induction tries generalizing kernel with
  | zero => exact .inl ⟨kernel, ⟨rfl, rfl⟩, fun _ => Nat.zero_le _⟩
  | succ more ih =>
    rcases node.writeOnce_cases data kernel with ⟨cuts, answer, middle, hwrite, hstalled, htalk⟩ |
      ⟨log, ending, later, hwrite, hne, htalk, hcourse⟩
    · have hnext {ending : Ending Nat} {left : Kernel}
          (h : (native.writable node.waitable (-1) >>= fun _ => node.writeAttempts data more).Ends
            middle ending left) : (node.writeAttempts data (more + 1)).Ends kernel ending left :=
        hwrite.bind h
      rcases writable_cases middle node.fd (-1) with ⟨later, hwait, hother⟩ |
        ⟨ready, later, hwait, waits, last, found, hwaits, ⟨limit, rfl, hlimit⟩, hasked, hconcludes⟩
      · exact .inl ⟨later, hnext hwait.bind_unending,
          fun hscripted => absurd (htalk.stays_scripted hscripted) hother⟩
      have hcourse {rest : List Exchange} {ending : Ending Nat}
          (h : node.Course data .waiting (.poll pollOut limit found :: rest) ending) :
          node.Course data .writing
            (List.replicate cuts (.write data (.error .interrupted)) ++ .write data answer ::
              (waits ++ .poll pollOut limit found :: rest)) ending :=
        .cuts (.stalled hstalled (h.waiting hwaits)) cuts
      rw [hlimit rfl] at hasked hcourse
      have hboth := htalk.append hasked
      cases hconcludes with
      | expired _ hpast =>
        -- A wait without a limit is never late.
        obtain ⟨hfinite, -⟩ := Deadline.isPast_ofLimit.1 hpast
        exact absurd hfinite (by decide)
      | @found events hevents =>
        rcases ih later with ⟨left, hends, hbound⟩ | ⟨rest, ending, left, hends, hrest, hcont⟩
        · -- The write used up an answer, and the waits gave none back.
          refine .inl ⟨left, hnext (hwait.bind hends), fun hscripted => ?_⟩
          have hmiddle := htalk.stays_scripted hscripted
          have hless := (htalk.scripted hscripted).writes_lt hstalled
          have hle := (hasked.scripted hmiddle).writes_le
          have hmore := hbound (hasked.stays_scripted hmiddle)
          omega
        · refine .inr ⟨_, ending, left, hnext (hwait.bind hends), ?_, hcourse (.room hevents hcont)⟩
          simpa using hboth.append hrest
      | @refused errno herrno =>
        refine .inr ⟨_, _, later, hnext hwait.bind_failed, ?_, hcourse (.waitRefused herrno)⟩
        simpa using hboth
    · refine .inr ⟨log, ending, later, ?_, htalk, hcourse⟩
      cases ending with
      | returned count =>
        refine hwrite.bind ?_
        rw [if_pos (fun heq => hne (congrArg _ heq))]
        exact ⟨rfl, rfl⟩
      | failed failure => exact hwrite.bind_failed
      | unending => exact hwrite.bind_unending

/-- A blocking write of some bytes ends if the answers are given beforehand. Whenever it ends, its one
write that took bytes was its last call, and it answers how many these were. -/
theorem writeBlocking_once (node : Node) (kernel : Kernel) {data : Bytes} (hdata : data ≠ []) :
    let out := (node.writeBlocking data).run kernel
    (kernel.endpoint? node.fd = some .scripted → out.ending ≠ .unending) ∧
      (out.ending ≠ .unending → ∃ log, node.Written data kernel log out.ending out.state ∧
        (kernel.endpoint? node.fd = some .scripted → kernel.ScriptedTalk log out.state)) := by
  intro out
  have hblocking {ending : Ending Nat} {later : Kernel}
      (h : (node.writeAttempts data (kernel.script.writes.length + 1)).Ends kernel ending later) :
      (node.writeBlocking data).Ends kernel ending later := by
    unfold writeBlocking
    simp only [List.isEmpty_iff, hdata]
    exact h.chosen fun now => node.writeAttempts data (now.script.writes.length + 1)
  rcases node.writeAttempts_cases data (kernel.script.writes.length + 1) kernel with
    ⟨later, hends, hbound⟩ | ⟨log, ending, later, hends, htalk, hcourse⟩
  · obtain ⟨hending, -⟩ := hblocking hends
    exact ⟨fun hscripted => absurd (hbound hscripted) (Nat.not_succ_le_self _),
      fun hne => absurd hending hne⟩
  · obtain ⟨rfl, rfl⟩ := hblocking hends
    have hwritten := hcourse.written htalk
    exact ⟨fun _ => hwritten.ends, fun _ => ⟨log, hwritten, htalk.scripted⟩⟩

/-- A node with no room for two writes. Writes and waits are cut short, and one wait finds nothing. -/
def crowded (answer : Except Errno Nat) : Kernel where
  endpoints := [(3, .scripted)]
  script :=
    { writes := [.error .interrupted, .error .again, .ok 0, .error .interrupted, answer]
      polls := [.error .interrupted, .ok 0, .ok pollOut, .ok (pollOut ||| pollHangup)] }

/-- The fifth write takes two of three bytes, or finds the device gone. -/
theorem writeBlocking_once_crowded :
    let node : Node := ⟨"/dev/ttyACM0", 3⟩
    let data : Bytes := [0x41, 0x42, 0x43]
    let taken := (node.writeBlocking data).run (crowded (.ok 2))
    let gone := (node.writeBlocking data).run (crowded (.error .noSuchDevice))
    (taken.ending = .returned 2 ∧ ∃ before,
        node.Written data (crowded (.ok 2)) (before ++ [.write data (.ok 2)]) taken.ending
          taken.state) ∧
      gone.ending = .failed (node.writeFailure .noSuchDevice) ∧ ∃ log,
        node.Written data (crowded (.error .noSuchDevice)) log gone.ending gone.state := by
  intro node data taken gone
  have htaken : taken.ending = .returned 2 := by decide +kernel
  have hgone : gone.ending = .failed (node.writeFailure .noSuchDevice) := by decide +kernel
  obtain ⟨log, hwritten, -⟩ :=
    (node.writeBlocking_once (crowded (.ok 2)) (by decide : data ≠ [])).2 (by rw [htaken]; nofun)
  obtain ⟨-, -, before, rfl, -⟩ := hwritten.taken 2 htaken
  obtain ⟨other, hfailed, -⟩ :=
    (node.writeBlocking_once (crowded (.error .noSuchDevice)) (by decide : data ≠ [])).2
      (by rw [hgone]; nofun)
  exact ⟨⟨htaken, before, hwritten⟩, hgone, other, hfailed⟩

end Node

end Hotplug
