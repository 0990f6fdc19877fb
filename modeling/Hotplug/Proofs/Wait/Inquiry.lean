import Mathlib.Data.List.DropRight
import Hotplug.Proofs.Simulation
import Hotplug.Proofs.Wait.Places
import Hotplug.Wait.Script
/-!
# What a wait has learned

A wait asks its primitive again and again. The primitive may say of an object only once that it is
ready, so whatever an answer reports has to come out of the wait in the end. A signal that cuts a call
short makes the wait begin anew; what was reported before it is dropped, also what a wait on one chunk
carried into the next sweep.

## Main definitions

* `Hotplug.Inquiry`: one question to a primitive, and how it ended.
* `Hotplug.Primitive.noting`: a primitive that notes every inquiry.
* `Hotplug.Primitive.inquiries`: what a wait asked, and what it was answered.
* `Hotplug.Inquiry.since`, `Hotplug.Inquiry.upTo`: the inquiries after the last interruption, and the
  others.

## Main statements

* `Hotplug.Primitive.waitAll_reports_kept_iff`: a wait in chunks returns what was reported after the
  last interruption, so it keeps every report exactly if each earlier one was made again.
-/

namespace Hotplug

variable {σ α β : Type}

/-- One question to a primitive, and how it ended. -/
structure Inquiry where
  /-- What was waited for. -/
  chunk : Chunk
  /-- The limit, in milliseconds. -/
  limit : Int
  /-- How the call ended. -/
  ending : Ending Readiness

namespace Inquiry

/-- The places, among all objects, that the answer reports to be ready. -/
def reported (inquiry : Inquiry) : List Nat :=
  match inquiry.ending with
  | .returned (.ready places) => inquiry.chunk.places places
  | _ => []

/-- Whether a signal cut the call short. -/
def isInterrupted (inquiry : Inquiry) : Bool :=
  inquiry.ending = .returned .interrupted

/-- Everything that some inquiries reported, in order. -/
def reports (log : List Inquiry) : List Nat :=
  log.flatMap reported

/-- The inquiries after the last interruption. -/
def since (log : List Inquiry) : List Inquiry :=
  log.rtakeWhile fun inquiry => !inquiry.isInterrupted

/-- The inquiries up to the last interruption. -/
def upTo (log : List Inquiry) : List Inquiry :=
  log.rdropWhile fun inquiry => !inquiry.isInterrupted

/-- No call was cut short. -/
def Undisturbed (log : List Inquiry) : Prop :=
  ∀ inquiry ∈ log, inquiry.isInterrupted = false

/-- The last call was cut short. -/
def EndsInterrupted (log : List Inquiry) : Prop :=
  ∃ earlier last, log = earlier ++ [last] ∧ last.isInterrupted = true

@[simp] theorem reports_nil : reports [] = [] := rfl

@[simp] theorem reports_singleton (inquiry : Inquiry) : reports [inquiry] = inquiry.reported :=
  List.append_nil _

@[simp] theorem reports_append (a b : List Inquiry) :
    reports (a ++ b) = reports a ++ reports b :=
  List.flatMap_append

theorem reports_upTo_append_since (log : List Inquiry) :
    reports log = reports (upTo log) ++ reports (since log) := by
  rw [← reports_append, upTo, since, List.rdropWhile_append_rtakeWhile]

theorem Undisturbed.append {a b : List Inquiry} (ha : Undisturbed a) (hb : Undisturbed b) :
    Undisturbed (a ++ b) :=
  List.forall_mem_append.2 ⟨ha, hb⟩

theorem EndsInterrupted.append {b : List Inquiry} (h : EndsInterrupted b) (a : List Inquiry) :
    EndsInterrupted (a ++ b) := by
  obtain ⟨earlier, last, rfl, hlast⟩ := h
  exact ⟨a ++ earlier, last, (List.append_assoc ..).symm, hlast⟩

theorem Undisturbed.since_eq {log : List Inquiry} (h : Undisturbed log) : since log = log := by
  rw [since, List.rtakeWhile_eq_self_iff]
  intro inquiry hmem
  rw [h inquiry hmem]
  rfl

theorem EndsInterrupted.since_eq {log : List Inquiry} (h : EndsInterrupted log) :
    since log = [] := by
  obtain ⟨earlier, last, rfl, hlast⟩ := h
  exact List.rtakeWhile_concat_neg _ _ _ (by simp [hlast])

theorem since_append_of_undisturbed (a : List Inquiry) {b : List Inquiry} (h : Undisturbed b) :
    since (a ++ b) = since a ++ b := by
  induction b using List.reverseRecOn with
  | nil => simp
  | append_singleton b last ih =>
    have hlast : last.isInterrupted = false := h last (by simp)
    have hb : Undisturbed b := fun inquiry hmem => h inquiry (List.mem_append_left _ hmem)
    rw [← List.append_assoc, since, List.rtakeWhile_concat_pos _ _ _ (by simp [hlast])]
    change since (a ++ b) ++ [last] = _
    rw [ih hb, List.append_assoc]

theorem since_append_of_disturbed (a : List Inquiry) {b : List Inquiry} (h : ¬Undisturbed b) :
    since (a ++ b) = since b := by
  induction b using List.reverseRecOn with
  | nil => exact absurd (fun _ hmem => absurd hmem List.not_mem_nil) h
  | append_singleton b last ih =>
    rw [← List.append_assoc, since, since, List.rtakeWhile_concat, List.rtakeWhile_concat]
    cases hlast : last.isInterrupted with
    | true => rfl
    | false =>
      have hb : ¬Undisturbed b := by
        intro hb
        refine h (hb.append ?_)
        simpa [Undisturbed] using hlast
      exact congrArg (· ++ [last]) (ih hb)

/-- What was learned before an attempt that learned nothing lasting does not count. -/
theorem reports_since_append {a : List Inquiry} (h : reports (since a) = []) (b : List Inquiry) :
    reports (since (a ++ b)) = reports (since b) := by
  by_cases hb : Undisturbed b
  · rw [since_append_of_undisturbed a hb, reports_append, h, hb.since_eq, List.nil_append]
  · rw [since_append_of_disturbed a hb]

end Inquiry

open Inquiry

/-- Who stands in between is handed the place as well. -/
instance : Handed Chunk where
  part := id

namespace Primitive

/-- A primitive that notes every inquiry. It stands between the wait and the primitive, so it is handed
the chunk and hands over the objects. -/
def noting (p : Primitive σ) : Primitive (σ × List Inquiry) Chunk where
  limit := p.limit
  now := fun (s, log) => ((p.now s).1, (p.now s).2, log)
  sleep := fun ms (s, log) => (p.sleep ms s, log)
  call := fun chunk limit (s, log) =>
    let out := p.ask chunk limit s
    ⟨out.ending, (out.state, log ++ [⟨chunk, limit, out.ending⟩]), out.reports⟩
  patience := fun limit (s, _) => p.patience limit s

/-- Noting the inquiries does not disturb a primitive. -/
theorem noting_mirrors (p : Primitive σ) : Mirrors Prod.fst p.noting p where
  limit := rfl
  now := fun _ => ⟨rfl, rfl⟩
  ask := fun _ _ _ => rfl
  patience := fun _ _ => rfl

/-- The inquiries that a wait makes, oldest first. -/
def inquiries (p : Primitive σ) (objects : List Waitable) (limit slice : Int) (state : σ) :
    List Inquiry :=
  ((p.noting.waitAll objects limit slice).run (state, [])).state.2

end Primitive

/-- An action adds inquiries to what was noted, and if it returns a value, they go with the value. -/
def Action.Notes (action : Action (σ × List Inquiry) α) (post : α → List Inquiry → Prop) : Prop :=
  ∀ state log, ∃ new, (action.run (state, log)).state.2 = log ++ new ∧
    ∀ value, (action.run (state, log)).ending = .returned value → post value new

namespace Action.Notes

theorem pure {value : α} {post : α → List Inquiry → Prop} (h : post value []) :
    (pure value : Action (σ × List Inquiry) α).Notes post :=
  fun _ log => ⟨[], (List.append_nil log).symm, fun _ heq => by cases heq; exact h⟩

theorem wait {post : α → List Inquiry → Prop} :
    (Action.wait : Action (σ × List Inquiry) α).Notes post :=
  fun _ log => ⟨[], (List.append_nil log).symm, fun _ heq => by cases heq⟩

theorem weaken {action : Action (σ × List Inquiry) α} {pre post : α → List Inquiry → Prop}
    (h : Notes action pre) (himp : ∀ value new, pre value new → post value new) :
    Notes action post := by
  intro state log
  obtain ⟨new, hlog, hnew⟩ := h state log
  exact ⟨new, hlog, fun value heq => himp value new (hnew value heq)⟩

theorem bind {first : Action (σ × List Inquiry) α} {next : α → Action (σ × List Inquiry) β}
    {mid : α → List Inquiry → Prop} {post : β → List Inquiry → Prop} (h : Notes first mid)
    (hnext : ∀ value new, mid value new →
      Notes (next value) fun result more => post result (new ++ more)) :
    Notes (first >>= next) post := by
  intro state log
  obtain ⟨new, hlog, hmid⟩ := h state log
  rw [run_bind]
  rcases hrun : first.run (state, log) with ⟨value | failure | _, left, reports⟩
  · rw [hrun] at hlog hmid
    obtain ⟨more, hmore, hpost⟩ := hnext value new (hmid value rfl) left.1 left.2
    exact ⟨new ++ more, by rw [← List.append_assoc, ← hlog]; exact hmore, hpost⟩
  · rw [hrun] at hlog
    exact ⟨new, hlog, fun _ heq => by cases heq⟩
  · rw [hrun] at hlog
    exact ⟨new, hlog, fun _ heq => by cases heq⟩

end Action.Notes

/-! ### What each part of a wait notes -/

namespace Primitive

/-- Reading the clock notes nothing. -/
theorem Timing.notes {p : Primitive σ} {action : Action (σ × List Inquiry) α}
    (h : p.noting.Timing action) : action.Notes fun _ new => new = [] := by
  cases h with
  | given value => exact .pure rfl
  | read f => exact fun _ log => ⟨[], (List.append_nil log).symm, fun _ _ => rfl⟩

theorem ask_notes (p : Primitive σ) (chunk : Chunk) (limit : Int) :
    (p.noting.ask chunk limit).Notes fun answer new =>
      new = [⟨chunk, limit, .returned answer⟩] := by
  intro state log
  refine ⟨[⟨chunk, limit, ((p.ask chunk limit).run state).ending⟩], rfl, fun answer h => ?_⟩
  have hending : ((p.ask chunk limit).run state).ending = .returned answer := h
  rw [hending]

end Primitive

namespace Chunked

variable (p : Primitive σ)

/-- A sweep adds every report to what was found, unless it is cut short. -/
theorem sweep_notes (chunks : List Chunk) (found : List Nat) :
    (sweep p.noting chunks found).Notes fun answer new =>
      match answer with
      | some places => Undisturbed new ∧ places = found ++ reports new
      | none => EndsInterrupted new := by
  induction chunks generalizing found with
  | nil => exact .pure ⟨nofun, by simp⟩
  | cons chunk rest ih =>
    refine .bind (p.ask_notes chunk 0) fun answer new hnew => ?_
    subst hnew
    -- A call that was not cut short, followed by the rest of the sweep.
    have goOn (answer : Readiness) (hanswer : answer ≠ .interrupted) :
        (sweep p.noting rest (found ++ reported ⟨chunk, 0, .returned answer⟩)).Notes
          fun result later =>
            match result with
            | some places => Undisturbed ([⟨chunk, 0, .returned answer⟩] ++ later) ∧
                places = found ++ reports ([⟨chunk, 0, .returned answer⟩] ++ later)
            | none => EndsInterrupted ([⟨chunk, 0, .returned answer⟩] ++ later) := by
      refine (ih _).weaken fun result later hlater => ?_
      cases result with
      | none => exact hlater.append _
      | some places =>
        refine ⟨.append (by simpa [Undisturbed, isInterrupted] using hanswer) hlater.1, ?_⟩
        rw [hlater.2, reports_append, List.append_assoc]
        simp [reports]
    cases answer with
    | ready places => exact goOn (.ready places) nofun
    | timedOut => simpa [reported] using goOn .timedOut nofun
    | interrupted => exact .pure ⟨[], _, rfl, rfl⟩

/-- What the answer of a wait in chunks says of its inquiries, if the wait began with some places
carried over. -/
def Accounts (carried : List Nat) : Readiness → List Inquiry → Prop
  | .ready places, log => Undisturbed log ∧ places = sortUnique (carried ++ reports log)
  | .timedOut, log => Undisturbed log ∧ carried ++ reports log = []
  | .interrupted, log => EndsInterrupted log

/-- An undisturbed start whose reports make up what is carried on puts itself before the rest. -/
theorem Accounts.prepend {carried later : List Nat} {answer : Readiness} {a b : List Inquiry}
    (h : Accounts later answer b) (ha : Undisturbed a) (hcarried : carried ++ reports a = later) :
    Accounts carried answer (a ++ b) := by
  subst hcarried
  cases answer with
  | ready places =>
    refine ⟨ha.append h.1, ?_⟩
    rw [reports_append, ← List.append_assoc]
    exact h.2
  | timedOut =>
    refine ⟨ha.append h.1, ?_⟩
    rw [reports_append, ← List.append_assoc]
    exact h.2
  | interrupted => exact EndsInterrupted.append h a

theorem rounds_notes (chunks : List Chunk) (slice : Int) (deadline : Deadline)
    (patience turn : Nat) (carried : List Nat) :
    (rounds p.noting chunks slice deadline patience turn carried).Notes (Accounts carried) := by
  induction patience generalizing turn carried with
  | zero => exact .wait
  | succ more ih =>
    refine .bind (sweep_notes p chunks carried) fun found swept hswept => ?_
    match found, hswept with
    | none, hswept =>
      refine .pure ?_
      rw [List.append_nil]
      exact hswept
    | some (place :: places), ⟨hundisturbed, hfound⟩ =>
      exact .pure ⟨by simpa using hundisturbed, by simp [hfound]⟩
    | some [], ⟨hundisturbed, hfound⟩ =>
      -- Nothing was carried and nothing was found, so only the call on one chunk counts from here on.
      have goOn {action : Action (σ × List Inquiry) Readiness} {later : List Inquiry}
          {next : List Nat} (hlater : Undisturbed later) (hnext : reports later = next)
          (h : action.Notes (Accounts next)) :
          action.Notes fun answer rest => Accounts carried answer (swept ++ (later ++ rest)) := by
        refine h.weaken fun answer rest hrest => ?_
        rw [← List.append_assoc]
        refine hrest.prepend (hundisturbed.append hlater) ?_
        rw [reports_append, ← List.append_assoc, ← hfound, List.nil_append, hnext]
      refine .bind (p.noting.timing_left deadline).notes fun remaining read hread => ?_
      subst hread
      split
      · exact goOn nofun rfl (.pure ⟨nofun, rfl⟩)
      · split
        · exact goOn nofun rfl (.pure ⟨nofun, rfl⟩)
        · refine .bind (p.ask_notes _ _) fun answer asked hasked => ?_
          subst hasked
          cases answer with
          | ready places =>
            exact goOn (by simp [Undisturbed, isInterrupted]) (by simp [reports, reported])
              (ih (turn + 1) _)
          | timedOut =>
            exact goOn (by simp [Undisturbed, isInterrupted]) (by simp [reports, reported])
              (ih (turn + 1) [])
          | interrupted =>
            refine .pure ?_
            rw [List.nil_append, List.append_nil]
            exact EndsInterrupted.append ⟨[], _, rfl, rfl⟩ swept

end Chunked

namespace Primitive

variable {p : Primitive σ} {objects : List Waitable} {size : Nat}

/-- An attempt in chunks returns what was reported since it was cut short last; if it has nothing to
return, there was nothing. -/
theorem attempt_notes (hsize : p.limit = some size) (hmore : size < objects.length)
    (patience : Nat) (remaining slice : Int) :
    (p.noting.attempt patience objects remaining slice).Notes fun answer new =>
      match answer with
      | .ready places => places = sortUnique (reports (since new))
      | _ => reports (since new) = [] := by
  have hchunked : p.noting.attempt patience objects remaining slice =
      Chunked.wait p.noting patience objects size remaining slice := by
    simp [attempt, noting, hsize, hmore]
  rw [hchunked]
  refine .bind (p.noting.timing_begin remaining).notes fun deadline none hnone => ?_
  subst hnone
  refine (Chunked.rounds_notes p _ _ deadline patience 0 []).weaken fun answer new hnew => ?_
  rw [List.nil_append]
  cases answer with
  | ready places => rw [hnew.1.since_eq]; exact hnew.2
  | timedOut => rw [hnew.1.since_eq]; exact hnew.2
  | interrupted => rw [EndsInterrupted.since_eq hnew]; rfl

theorem attempts_notes (hsize : p.limit = some size) (hmore : size < objects.length)
    (patience : Nat) (slice : Int) (deadline : Deadline) (tries : Nat) :
    (p.noting.attempts patience objects slice deadline tries).Notes fun places new =>
      places = sortUnique (reports (since new)) := by
  induction tries with
  | zero => exact .wait
  | succ more ih =>
    refine .bind (p.noting.timing_left deadline).notes fun remaining read hread => ?_
    subst hread
    refine .bind (attempt_notes hsize hmore patience remaining slice) fun answer tried htried => ?_
    -- An attempt without a result leaves nothing to account for, so a later one is not changed by it.
    have again (htried : reports (since tried) = []) :
        (p.noting.isOver deadline >>= fun isLate =>
          if isLate ∨ remaining = 0 then pure []
          else p.noting.attempts patience objects slice deadline more).Notes fun places rest =>
            places = sortUnique (reports (since ([] ++ (tried ++ rest)))) := by
      refine .bind (p.noting.timing_isOver deadline).notes fun isLate read hread => ?_
      subst hread
      split
      · exact .pure (by simp [htried, sortUnique])
      · refine ih.weaken fun places rest hrest => ?_
        rw [List.nil_append, List.nil_append, reports_since_append htried]
        exact hrest
    cases answer with
    | ready places =>
      refine .pure ?_
      rw [List.nil_append, List.append_nil]
      exact htried
    | timedOut => exact again htried
    | interrupted => exact again htried

/-- The places that a wait in chunks returns are those reported after the last interruption. -/
theorem waitAll_eq_reports_since (hsize : p.limit = some size) (hmore : size < objects.length)
    {limit slice : Int} {state : σ} {places : List Nat}
    (h : ((p.waitAll objects limit slice).run state).ending = .returned places) :
    places = sortUnique (reports (since (p.inquiries objects limit slice state))) := by
  have hnotes : (p.noting.waitWithin (p.patience limit state) objects limit slice).Notes
      fun places new => places = sortUnique (reports (since new)) := by
    refine .bind (p.noting.timing_begin limit).notes fun deadline none hnone => ?_
    subst hnone
    exact attempts_notes hsize hmore _ slice deadline _
  obtain ⟨new, hlog, hnew⟩ := hnotes state []
  have hending : ((p.noting.waitAll objects limit slice).run (state, [])).ending =
      .returned places := by
    rw [← h, ← p.noting_mirrors.waitAll objects limit slice (state, [])]
    rfl
  rw [inquiries, show ((p.noting.waitAll objects limit slice).run (state, [])).state.2 = new from hlog]
  exact hnew places hending

/-- A wait in chunks returns, in ascending order, what was reported after the last interruption. So it
keeps every report exactly if each one up to the last interruption was made again after it; without an
interruption it keeps all. -/
theorem waitAll_reports_kept_iff (hsize : p.limit = some size) (hmore : size < objects.length)
    {limit slice : Int} {state : σ} {places : List Nat}
    (h : ((p.waitAll objects limit slice).run state).ending = .returned places) :
    let log := p.inquiries objects limit slice state
    places = sortUnique (reports (since log)) ∧
      ((∀ place ∈ reports log, place ∈ places) ↔
        ∀ place ∈ reports (upTo log), place ∈ reports (since log)) := by
  intro log
  have hplaces : places = sortUnique (reports (since log)) :=
    waitAll_eq_reports_since hsize hmore h
  refine ⟨hplaces, ?_⟩
  rw [hplaces, reports_upTo_append_since]
  simp only [mem_sortUnique, List.forall_mem_append]
  exact and_iff_left fun _ hmem => hmem

/-- Three objects in chunks of two: what was reported before the interruption is reported again. -/
theorem waitAll_reports_kept_iff_repeated :
    let p := WaitScript.primitive (some 2)
    let objects : List Waitable := [.handle 1, .handle 2, .handle 3]
    let script : WaitScript :=
      ⟨[.ok (.ready [1]), .ok .interrupted, .ok (.ready [1, 0]), .ok (.ready [0])], []⟩
    let log := p.inquiries objects (-1) 10 script
    p.limit = some 2 ∧ 2 < objects.length ∧
      ((p.waitAll objects (-1) 10).run script).ending = .returned [0, 1, 2] ∧
      [0, 1, 2] = sortUnique (reports (since log)) ∧
      ((∀ place ∈ reports log, place ∈ [0, 1, 2]) ↔
        ∀ place ∈ reports (upTo log), place ∈ reports (since log)) := by
  intro p objects script log
  have hreturned : ((p.waitAll objects (-1) 10).run script).ending = .returned [0, 1, 2] := by
    decide +kernel
  exact ⟨rfl, by decide, hreturned, waitAll_reports_kept_iff rfl (by decide) hreturned⟩

/-- Two objects in chunks of one: the first is reported ready, a signal cuts the next call short, and
the wait ends with nothing. -/
theorem waitAll_loses_report_before_interruption :
    let p := WaitScript.primitive (some 1)
    let objects : List Waitable := [.handle 1, .handle 2]
    let script : WaitScript := ⟨[.ok (.ready [0]), .ok .interrupted], []⟩
    ((p.waitAll objects 0 10).run script).ending = .returned [] ∧
      reports (p.inquiries objects 0 10 script) = [0] := by
  constructor <;> decide +kernel

end Primitive

end Hotplug
