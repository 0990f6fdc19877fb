import Mathlib.Data.List.Basic
import Hotplug.Proofs.Report.Calls
import Hotplug.Proofs.Report.Commands
/-!
# Masks only hide

Two runs of the same commands, one with no code masked and one with some codes masked, differ in the
journal alone: there, the lines of failures of the masked codes are missing from the second.

Whatever runs sees the masks, and a failure is kept back where it comes about. That this has no other
consequence is a matter of each operation, which is blind to the masks. The two journals are related by
what they still have in common. A blind action keeps the relation and gives the same answer on both
sides, so one step of a run does, and the whole run.

## Main definitions

* `Hotplug.Journal.without`: lines without those of failures of some codes.
* `Hotplug.Journal.Hides`: the relation between the journals of the two runs.
* `Hotplug.performEach`: commands performed one after another.
* `Hotplug.Offer`: what the library offers to do, on whatever platform.
* `Hotplug.Step`: an offer that is taken, or an exchange of the sink.

## Main statements

* `Hotplug.Journal.Hides.blind`: a blind action keeps the relation.
* `Hotplug.performEach_related`: a relation that each command keeps is kept by a run.
* `Hotplug.masks_only_hide`
-/

universe u v

namespace Hotplug

/-! ### Two journals -/

namespace Journal

variable {σ α : Type} {codes : List Code} {start : List Line} {a b : Journal}

/-- Whether a line is that of a failure of one of the codes. -/
def Line.isOf (codes : List Code) (line : Line) : Bool :=
  line.level == .error && line.code.any fun code => decide (code ∈ codes)

/-- The lines without those of failures of the codes, in the same order. -/
def without (codes : List Code) (lines : List Line) : List Line :=
  lines.filter fun line => !line.isOf codes

/-- The second journal is the first with some codes masked. What was written from the start on is
missing from it where it is of a failure of one of the codes. -/
structure Hides (codes : List Code) (start : List Line) (a b : Journal) : Prop where
  sink : b.sink = a.sink
  clear : a.masks = .none
  masked : ∀ code, b.masks.isMasked code = true ↔ code ∈ codes
  lines : ∃ written, a.lines = start ++ written ∧ b.lines = start ++ without codes written

theorem Line.isOf_status (codes : List Code) (sink : String) (level : Level) (message : String) :
    Line.isOf codes ⟨sink, level, none, message⟩ = false := by
  simp [Line.isOf]

theorem Line.isOf_failure (codes : List Code) (sink : String) (f : Failure) :
    Line.isOf codes ⟨sink, .error, some f.code, f.message⟩ = decide (f.code ∈ codes) := by
  simp [Line.isOf]

/-- A mask takes away the line of a failure of its code and no other. -/
theorem line?_of_masked {masks : Masks} (h : ∀ code, masks.isMasked code = true ↔ code ∈ codes)
    (sink : String) (report : Report) :
    (if masks.lets report then line? sink report else none) =
      (line? sink report).filter fun line => !line.isOf codes := by
  cases report with
  | status level message =>
    simp only [Masks.lets, line?, Option.filter, Line.isOf_status, Bool.not_false, if_true]
  | diagnostic diagnostic => rfl
  | failure f =>
    have hmask : masks.isMasked f.code = decide (f.code ∈ codes) := by
      rw [Bool.eq_iff_iff, h, decide_eq_true_iff]
    simp only [Masks.lets, line?, Option.filter, Line.isOf_failure, hmask]

/-- What is let through gives the lines of what is said, without those of the masked codes. -/
theorem filterMap_filter_lets {masks : Masks}
    (h : ∀ code, masks.isMasked code = true ↔ code ∈ codes) (sink : String) (reports : List Report) :
    (reports.filter masks.lets).filterMap (line? sink) =
      without codes (reports.filterMap (line? sink)) := by
  rw [without, List.filter_filterMap, List.filterMap_filter]
  exact List.filterMap_congr fun report _ => line?_of_masked h sink report

theorem Hides.record (h : Hides codes start a b) (reports : List Report) :
    Hides codes start (a.record reports) (b.record (reports.filter b.masks.lets)) where
  sink := h.sink
  clear := h.clear
  masked := h.masked
  lines := by
    obtain ⟨written, ha, hb⟩ := h.lines
    refine ⟨written ++ reports.filterMap (line? a.sink), ?_, ?_⟩
    · rw [Journal.record, ha, List.append_assoc]
    · rw [Journal.record, hb, filterMap_filter_lets h.masked, h.sink, without, without, without,
        List.filter_append, List.append_assoc]

/-- Under either journal a blind action ends in the same way and leaves the same state, and what it writes
keeps the relation. -/
theorem Hides.blind (h : Hides codes start a b) {action : Action σ α} (hblind : action.Blind)
    (state : σ) :
    let clear := action.under a.logging state
    let masked := action.under b.logging state
    masked.ending = clear.ending ∧ masked.state = clear.state ∧
      Hides codes start (a.record clear.reports) (b.record masked.reports) := by
  intro clear masked
  have hclear : clear = action.run state := hblind.under_clear a.logging h.clear state
  have hmasked : masked = (action.run state).hidden b.masks := hblind b.logging state
  rw [hclear, hmasked]
  exact ⟨rfl, rfl, h.record _⟩

theorem Hides.redirect (h : Hides codes start a b) (sink : String) :
    Hides codes start (a.redirect sink) (b.redirect sink) :=
  ⟨rfl, h.clear, h.masked, h.lines⟩

/-- Of the failures of other codes, both journals have all. -/
theorem Hides.countP_eq (h : Hides codes start a b) {code : Code} (hcode : code ∉ codes) :
    b.lines.countP (·.code == some code) = a.lines.countP (·.code == some code) := by
  obtain ⟨written, ha, hb⟩ := h.lines
  rw [ha, hb, List.countP_append, List.countP_append, without, List.countP_filter]
  congr 1
  refine List.countP_congr fun line _ => ?_
  by_cases hline : line.code = some code <;> simp [Line.isOf, hline, hcode]

end Journal

/-! ### Two runs -/

/-- Performs commands, one after another. -/
def performEach {ρ : Type} {γ : Type u} {δ : Type v} (perform : ρ → γ → δ × ρ) :
    ρ → List γ → List δ × ρ
  | state, [] => ([], state)
  | state, command :: rest =>
    let (answer, state) := perform state command
    let (answers, state) := performEach perform state rest
    (answer :: answers, state)

/-- A relation that each command keeps, with the same answer on both sides, is kept by a run. What the
states have in common may change from one command to the next. -/
theorem performEach_related {ι ρ : Type} {γ : Type u} {δ : Type v} (perform : ρ → γ → δ × ρ)
    (R : ι → ρ → ρ → Prop) (next : ι → γ → ι) (commands : List γ)
    (hstep : ∀ command ∈ commands, ∀ i a b, R i a b →
      (perform b command).1 = (perform a command).1 ∧
        R (next i command) (perform a command).2 (perform b command).2)
    {i : ι} {a b : ρ} (h : R i a b) :
    (performEach perform b commands).1 = (performEach perform a commands).1 ∧
      R (commands.foldl next i) (performEach perform a commands).2
        (performEach perform b commands).2 := by
  induction commands generalizing i a b with
  | nil => exact ⟨rfl, h⟩
  | cons command rest ih =>
    obtain ⟨hanswer, hrelated⟩ := hstep command List.mem_cons_self i a b h
    obtain ⟨hanswers, hlast⟩ :=
      ih (fun other hother => hstep other (List.mem_cons_of_mem _ hother)) hrelated
    refine ⟨?_, hlast⟩
    simp only [performEach, hanswer, hanswers]

/-! ### Sessions -/

theorem Session.performAll_eq (session : Session) (commands : List Command) :
    session.performAll commands = performEach Session.perform session commands := by
  induction commands generalizing session with
  | nil => rfl
  | cons command rest ih =>
    simp only [Session.performAll, performEach, ih]

/-- Whether a command leaves the masks alone and does not ask for them. -/
def Command.sparesMasks : Command → Bool
  | .desk _ | .journal (.redirect _) => true
  | .journal _ => false

namespace Session

/-- The session with other masks in force. -/
def withMasks (session : Session) (masks : Masks) : Session :=
  { session with log := session.log.onJournal fun journal => { journal with masks } }

/-- Two sessions that differ in their journals alone. -/
structure Hides (codes : List Code) (start : List Journal.Line) (a b : Session) : Prop where
  desk : b.desk = a.desk
  guards : b.log.guards = a.log.guards
  journal : Journal.Hides codes start a.log.journal b.log.journal

theorem Hides.perform {codes : List Code} {start : List Journal.Line} {a b : Session}
    (h : Hides codes start a b) {command : Command} (hspares : command.sparesMasks = true) :
    (b.perform command).1 = (a.perform command).1 ∧
      Hides codes start (a.perform command).2 (b.perform command).2 := by
  cases command with
  | desk command =>
    obtain ⟨hending, hstate, hjournal⟩ := h.journal.blind command.blind_run a.desk
    simp only [Session.perform, h.desk]
    exact ⟨hending, hstate, h.guards, hjournal⟩
  | journal command =>
    cases command with
    | redirect sink => exact ⟨rfl, h.desk, h.guards, h.journal.redirect sink⟩
    | mask | unmask | isMasked | guard | dropGuard | maskAll | unmaskAll => cases hspares

end Session

/-! ### Sessions with a rig -/

/-- What a command leaves of the lines that were written before. -/
def RigCommand.keep (lines : List Journal.Line) : RigCommand → List Journal.Line
  | .clearJournal => []
  | .desk _ | .failuresOf _ => lines

namespace RigSession

/-- The session with other masks in force. -/
def withMasks (session : RigSession) (masks : Masks) : RigSession :=
  { session with journal := { session.journal with masks } }

/-- Two sessions that differ in their journals alone. -/
structure Hides (codes : List Code) (start : List Journal.Line) (a b : RigSession) : Prop where
  desk : b.desk = a.desk
  journal : Journal.Hides codes start a.journal b.journal

theorem Hides.perform {codes : List Code} {start : List Journal.Line} {a b : RigSession}
    (h : Hides codes start a b) {command : RigCommand}
    (hcount : ∀ code ∈ codes, command ≠ .failuresOf code) :
    (b.perform command).1 = (a.perform command).1 ∧
      Hides codes (command.keep start) (a.perform command).2 (b.perform command).2 := by
  cases command with
  | desk command =>
    obtain ⟨hending, hstate, hjournal⟩ := h.journal.blind command.blind_run a.desk
    simp only [RigSession.perform, h.desk, hending]
    exact ⟨trivial, hstate, hjournal⟩
  | clearJournal =>
    exact ⟨rfl, h.desk, h.journal.sink, h.journal.clear, h.journal.masked, [], rfl, rfl⟩
  | failuresOf code =>
    have hcode : code ∉ codes := fun hmem => hcount code hmem rfl
    refine ⟨?_, h⟩
    simp only [RigSession.perform, h.journal.countP_eq hcode]

end RigSession

/-! ### Whatever the library offers -/

/-- What the library offers to do, with its answer. -/
inductive Offer : Type → Type → Type 1
  | call {σ α : Type} (request : Call σ α) : Offer σ α
  /-- Apply the pending announcements of a monitor. -/
  | refresh (make : Make) (id : MonitorId) : Offer (Hub make.State) (List Change)
  /-- Have the pending announcements delivered. -/
  | drain (make : Make) (source : Platform.Source make.State) : Offer make.State Drained
  /-- Put a status message into the journal. -/
  | say {σ : Type} (level : Level) (message : String) : Offer σ Unit

namespace Offer

variable {σ α : Type}

/-- Takes an offer. -/
def run : Offer σ α → Action σ α
  | call request => request.run
  | refresh _ id => Hub.refresh id
  | drain _ source => Platform.drain source
  | say level message => Action.say (.status level message)

/-- Every operation is blind, on every platform. -/
theorem blind_run (offer : Offer σ α) : offer.run.Blind := by
  cases offer with
  | call request => exact request.candid.blind
  | refresh make id => exact Hub.blind_refresh make.candid id
  | drain make source => exact (make.candid.drain source).blind
  | say level message => exact .say

end Offer

/-- An offer that is taken, or an exchange of the sink. -/
inductive Step (σ : Type)
  | act {α : Type} (offer : Offer σ α)
  | redirect (sink : String)

namespace Step

variable {σ : Type}

/-- Takes a step from a state and a journal. -/
def perform : σ × Journal → Step σ → (Σ α, Ending α) × (σ × Journal)
  | (state, journal), act offer =>
    let out := offer.run.under journal.logging state
    (⟨_, out.ending⟩, out.state, journal.record out.reports)
  | (state, journal), redirect sink => (⟨Unit, .returned ()⟩, state, journal.redirect sink)

/-- Equal states, with journals of which the second has some codes masked. -/
def Hides (codes : List Code) (start : List Journal.Line) (a b : σ × Journal) : Prop :=
  b.1 = a.1 ∧ Journal.Hides codes start a.2 b.2

theorem perform_related {codes : List Code} {start : List Journal.Line} {a b : σ × Journal}
    (h : Hides codes start a b) (step : Step σ) :
    (perform b step).1 = (perform a step).1 ∧
      Hides codes start (perform a step).2 (perform b step).2 := by
  obtain ⟨state, journal⟩ := a
  obtain ⟨state', journal'⟩ := b
  obtain ⟨rfl, hjournal⟩ := h
  cases step with
  | act offer =>
    obtain ⟨hending, hstate, hrecord⟩ := hjournal.blind offer.blind_run state'
    exact ⟨congrArg (Sigma.mk _) hending, hstate, hrecord⟩
  | redirect sink => exact ⟨rfl, rfl, hjournal.redirect sink⟩

end Step

/-! ### Masks only hide -/

theorem Journal.Hides.start {codes : List Code} {masks : Masks}
    (h : ∀ code, masks.isMasked code = true ↔ code ∈ codes) (journal : Journal) :
    Journal.Hides codes journal.lines { journal with masks := .none } { journal with masks } :=
  ⟨rfl, rfl, h, [], (List.append_nil _).symm, (List.append_nil _).symm⟩

/-- Masks only hide. Two runs of the same commands, one with no code masked and one with some codes
masked, give the same answers and leave the same state. What the second writes is what the first
writes, without the lines of failures of the masked codes. Said

* of a session, for commands that neither change the masks nor ask for them;
* of a session with a rig, for all commands but the question for the failures of a masked code. Lines
  that were there before are gone where the journal is cleared;
* of all that the library offers, on whatever platform and from any state, with sinks exchanged in
  between.
-/
theorem masks_only_hide {codes : List Code} {masks : Masks}
    (hmasks : ∀ code, masks.isMasked code = true ↔ code ∈ codes) :
    (∀ (session : Session) (commands : List Command),
      (∀ command ∈ commands, command.sparesMasks = true) →
        let clear := (session.withMasks .none).performAll commands
        let masked := (session.withMasks masks).performAll commands
        masked.1 = clear.1 ∧ masked.2.desk = clear.2.desk ∧ masked.2.log.guards = clear.2.log.guards ∧
          masked.2.log.journal.sink = clear.2.log.journal.sink ∧
          ∃ written, clear.2.log.journal.lines = session.log.journal.lines ++ written ∧
            masked.2.log.journal.lines =
              session.log.journal.lines ++ Journal.without codes written) ∧
    (∀ (session : RigSession) (commands : List RigCommand),
      (∀ code ∈ codes, .failuresOf code ∉ commands) →
        let clear := performEach RigSession.perform (session.withMasks .none) commands
        let masked := performEach RigSession.perform (session.withMasks masks) commands
        masked.1 = clear.1 ∧ masked.2.desk = clear.2.desk ∧
          ∃ written, clear.2.journal.lines =
              commands.foldl RigCommand.keep session.journal.lines ++ written ∧
            masked.2.journal.lines = commands.foldl RigCommand.keep session.journal.lines ++
              Journal.without codes written) ∧
    (∀ {σ : Type} (state : σ) (journal : Journal) (steps : List (Step σ)),
      let clear := performEach Step.perform (state, { journal with masks := .none }) steps
      let masked := performEach Step.perform (state, { journal with masks }) steps
      masked.1 = clear.1 ∧ masked.2.1 = clear.2.1 ∧ masked.2.2.sink = clear.2.2.sink ∧
        ∃ written, clear.2.2.lines = journal.lines ++ written ∧
          masked.2.2.lines = journal.lines ++ Journal.without codes written) := by
  refine ⟨fun session commands hspares => ?_, fun session commands hcounts => ?_,
    fun state journal steps => ?_⟩
  · have hstart : Session.Hides codes session.log.journal.lines (session.withMasks .none)
        (session.withMasks masks) := ⟨rfl, rfl, .start hmasks session.log.journal⟩
    obtain ⟨hanswers, hlast⟩ := performEach_related Session.perform (Session.Hides codes)
      (fun start _ => start) commands (fun command hmem _ _ _ h => h.perform (hspares command hmem)) hstart
    rw [List.foldl_fixed] at hlast
    simp only [Session.performAll_eq]
    exact ⟨hanswers, hlast.desk, hlast.guards, hlast.journal.sink, hlast.journal.lines⟩
  · have hstart : RigSession.Hides codes session.journal.lines (session.withMasks .none)
        (session.withMasks masks) := ⟨rfl, .start hmasks session.journal⟩
    obtain ⟨hanswers, hlast⟩ := performEach_related RigSession.perform (RigSession.Hides codes)
      RigCommand.keep commands
      (fun command hmem _ _ _ h => h.perform fun code hcode heq => hcounts code hcode (heq ▸ hmem))
      hstart
    exact ⟨hanswers, hlast.desk, hlast.journal.lines⟩
  · have hstart : Step.Hides codes journal.lines (state, { journal with masks := .none })
        (state, { journal with masks }) := ⟨rfl, .start hmasks journal⟩
    obtain ⟨hanswers, hstate, hlast⟩ := performEach_related Step.perform (Step.Hides codes)
      (fun start _ => start) steps (fun step _ _ _ _ h => Step.perform_related h step) hstart
    rw [List.foldl_fixed] at hlast
    exact ⟨hanswers, hstate, hlast.sink, hlast.lines⟩

/-- A delivery to a monitor that is cut short, then two failures with another sink in place. -/
def Session.losses : List Command := [
  .desk (.field (.setScript { deliveries := [⟨[.removed "port"], some (.io "lost")⟩] })),
  .desk (.registry (.monitor "m" .script {})),
  .desk (.registry (.refresh "m" none)),
  .journal (.redirect "b"),
  .desk (.fail (.notFound "gone")),
  .desk (.fail (.io "broken"))]

theorem masks_only_hide_losses :
    (∀ code, (Masks.none.acquire .io).isMasked code = true ↔ code ∈ [Code.io]) ∧
    (∀ command ∈ Session.losses, command.sparesMasks = true) ∧
    (let clear := (({} : Session).withMasks .none).performAll Session.losses
      let masked := (({} : Session).withMasks (Masks.none.acquire .io)).performAll Session.losses
      masked.1 = clear.1 ∧ masked.2.desk = clear.2.desk ∧
        clear.2.log.journal.lines = [
          ⟨"a", .debug, none, "monitor-1 started on 'script' backend with 0 device(s)"⟩,
          ⟨"a", .error, some .io, "lost"⟩,
          ⟨"a", .warning, none,
            "monitor-1: applying 1 notification(s) drained before failure: lost"⟩,
          ⟨"b", .error, some .notFound, "gone"⟩, ⟨"b", .error, some .io, "broken"⟩] ∧
        masked.2.log.journal.lines = [
          ⟨"a", .debug, none, "monitor-1 started on 'script' backend with 0 device(s)"⟩,
          ⟨"a", .warning, none,
            "monitor-1: applying 1 notification(s) drained before failure: lost"⟩,
          ⟨"b", .error, some .notFound, "gone"⟩]) := by
  have hmasks : ∀ code, (Masks.none.acquire .io).isMasked code = true ↔ code ∈ [Code.io] := by
    intro code
    cases code <;> decide
  have hspares : ∀ command ∈ Session.losses, command.sparesMasks = true := by decide
  obtain ⟨hanswers, hdesk, -⟩ := (masks_only_hide hmasks).1 {} Session.losses hspares
  refine ⟨hmasks, hspares, hanswers, hdesk, ?_, ?_⟩ <;> decide +kernel

end Hotplug
