import Hotplug.Proofs.Hub.Sound
/-!
# One identity at a time

What a registry has under one identity depends on what it had there and on the notices, one after the
other, and on nothing else. The devices that are present go the same way under the changes that the
notices announce, if the first of several with one identity counts. Notices may also be heard of twice:
played over the state to which they led, they change nothing.

## Main definitions

* `Hotplug.Filter.hold`: what a notice makes of what is held under an identity.
* `Hotplug.Filter.first`: the device that counts among those present.
* `Hotplug.Roster.infoAt`: what a registry has under an identity.

## Main statements

* `Hotplug.Watch.infoAt_applyAll`: notices act on each identity for itself.
* `Hotplug.Filter.foldl_hold_idem`: notices that led to a state leave it as it is.
* `Hotplug.Hub.Sound.infoAt_begun`, `Hotplug.Hub.Sound.infoAt_adopt`: what a monitor has when it starts,
  and after notices.
-/

namespace Hotplug

namespace Filter

variable (filter : Filter) (identity : Identity)

/-- What a notice makes of what is held under an identity. -/
def hold : Option Info → Notice → Option Info
  | held, .added info =>
    if filter.passes info = true ∧ info.identity = identity then held.or (some info) else held
  | held, .removed key => if identity.key = key then none else held

/-- The first of the devices present that passes and has the identity. -/
def first (present : List Info) : Option Info :=
  present.find? fun info => filter.passes info && info.identity = identity

/-- A device that comes in counts if there was none before. -/
theorem first_append (present : List Info) (info : Info) :
    filter.first identity (present ++ [info]) =
      filter.hold identity (filter.first identity present) (.added info) := by
  rw [first, List.find?_append, hold, first]
  by_cases h : filter.passes info = true ∧ info.identity = identity
  · rw [if_pos h, List.find?_cons_of_pos (by simpa using h)]
  · rw [if_neg h, List.find?_cons_of_neg (by simpa using h), List.find?_nil, Option.or_none]

/-- A device that goes takes its interfaces with it. -/
theorem first_filter (present : List Info) (key : String) :
    filter.first identity (present.filter (·.key ≠ key)) =
      filter.hold identity (filter.first identity present) (.removed key) := by
  rw [first, List.find?_filter, hold, first]
  split
  · next hkey =>
    refine List.find?_eq_none.2 fun info _ => ?_
    simp only [Bool.and_eq_true, decide_eq_true_eq, not_and]
    rintro hne - rfl
    exact hne hkey
  · next hkey =>
    refine congrArg (fun p => present.find? p) (funext fun info => ?_)
    by_cases h : info.identity = identity
    · have hne : info.key ≠ key := by
        rintro rfl
        exact hkey (h ▸ rfl)
      simp [hne]
    · simp [h]

/-- Devices that do not pass make no difference. -/
theorem first_filter_passes (present : List Info) :
    filter.first identity (present.filter filter.passes) = filter.first identity present := by
  rw [first, List.find?_filter, first]
  refine congrArg (fun p => present.find? p) (funext fun info => ?_)
  cases filter.passes info <;> simp

/-- Among notices the first device that comes in counts. -/
theorem foldl_hold_added (held : Option Info) (infos : List Info) :
    (infos.map Notice.added).foldl (filter.hold identity) held =
      held.or (filter.first identity infos) := by
  induction infos generalizing held with
  | nil => simp [first]
  | cons info rest ih =>
    rw [List.map_cons, List.foldl_cons, ih, hold]
    by_cases h : filter.passes info = true ∧ info.identity = identity
    · have hfirst : filter.first identity (info :: rest) = some info :=
        List.find?_cons_of_pos (by simpa using h)
      rw [if_pos h, hfirst, Option.or_assoc, Option.some_or]
    · have hfirst : filter.first identity (info :: rest) = filter.first identity rest :=
        List.find?_cons_of_neg (by simpa using h)
      rw [if_neg h, hfirst]

/-- Played over two states, notices lead to one, or they add to both what the first lacks. -/
theorem foldl_hold_cases (notices : List Notice) :
    (∃ result, ∀ held, notices.foldl (filter.hold identity) held = result) ∨
      ∃ more, ∀ held, notices.foldl (filter.hold identity) held = held.or more := by
  -- Additions fill the gap that a state has. A removal makes any two states one.
  induction notices with
  | nil => exact .inr ⟨none, fun held => (Option.or_none).symm⟩
  | cons notice rest ih =>
    have hkept (hstep : ∀ held, filter.hold identity held notice = held) :
        (∃ result, ∀ held, (notice :: rest).foldl (filter.hold identity) held = result) ∨
          ∃ more, ∀ held, (notice :: rest).foldl (filter.hold identity) held = held.or more := by
      simpa only [List.foldl_cons, hstep] using ih
    cases notice with
    | added info =>
      by_cases h : filter.passes info = true ∧ info.identity = identity
      · have hstep (held : Option Info) : filter.hold identity held (.added info) =
            held.or (some info) := if_pos h
        rcases ih with ⟨result, hresult⟩ | ⟨more, hmore⟩
        · exact .inl ⟨result, fun held => hresult _⟩
        · refine .inr ⟨(some info).or more, fun held => ?_⟩
          rw [List.foldl_cons, hmore, hstep, Option.or_assoc]
      · exact hkept fun held => if_neg h
    | removed key =>
      by_cases h : identity.key = key
      · have hstep (held : Option Info) : filter.hold identity held (.removed key) = none := if_pos h
        refine .inl ⟨rest.foldl (filter.hold identity) none, fun held => ?_⟩
        rw [List.foldl_cons, hstep]
      · exact hkept fun held => if_neg h

/-- Notices that led to a state leave it as it is. -/
theorem foldl_hold_idem {notices : List Notice} {held result : Option Info}
    (h : notices.foldl (filter.hold identity) held = result) :
    notices.foldl (filter.hold identity) result = result := by
  rcases filter.foldl_hold_cases identity notices with ⟨final, hfinal⟩ | ⟨more, hmore⟩
  · rw [hfinal] at h ⊢
    exact h
  · rw [hmore] at h ⊢
    subst h
    rw [Option.or_assoc, Option.or_self]

end Filter

/-- What a registry has under an identity. -/
def Roster.infoAt {ω : Type} (roster : Roster ω) (identity : Identity) : Option Info :=
  (roster.registry.find? identity).bind roster.records.info?

namespace Roster

variable {ω : Type} {roster : Roster ω} {filter : Filter}

/-- Every record of a registry in order is there, under the identity of its device. -/
theorem Sound.info?_of_find? (h : roster.Sound filter) {identity : Identity} {record : RecordId}
    (hfound : roster.registry.find? identity = some record) :
    ∃ info, roster.records.info? record = some info ∧ info.identity = identity ∧
      filter.passes info = true :=
  h.known _ (Registry.mem_of_find?_eq_some hfound)

theorem infoAt_eq_none (h : roster.Sound filter) {identity : Identity} :
    roster.infoAt identity = none ↔ roster.registry.find? identity = none := by
  rw [infoAt]
  cases hfound : roster.registry.find? identity with
  | none => simp
  | some record =>
    obtain ⟨info, hinfo, -⟩ := h.info?_of_find? hfound
    simp [hinfo]

/-- What is known of the records of a registry is all that there is to it. -/
theorem map_info?_find? (h : roster.Sound filter) (identity : Identity) :
    (roster.registry.find? identity).map roster.records.info? =
      (roster.infoAt identity).map some := by
  rw [infoAt]
  cases hfound : roster.registry.find? identity with
  | none => rfl
  | some record =>
    obtain ⟨info, hinfo, -⟩ := h.info?_of_find? hfound
    simp [hinfo]

/-- More records make no difference to a registry in order. -/
theorem infoAt_extend (h : roster.Sound filter) {later : Records ω}
    (hkeeps : later.Extends roster.records) (identity : Identity) :
    Roster.infoAt ⟨roster.registry, later⟩ identity = roster.infoAt identity := by
  rw [infoAt, infoAt]
  cases hfound : roster.registry.find? identity with
  | none => rfl
  | some record =>
    obtain ⟨info, hinfo, -⟩ := h.info?_of_find? hfound
    change later.info? record = roster.records.info? record
    rw [hinfo, hkeeps _ _ hinfo]

/-- Nor does what becomes of records that the registry does not have. -/
theorem infoAt_continues (h : roster.Sound filter) (hfresh : roster.records.Fresh)
    {later : Records ω} (hlater : Sound ⟨roster.registry, later⟩ filter)
    (hcontinues : later.Continues roster.records) (identity : Identity) :
    Roster.infoAt ⟨roster.registry, later⟩ identity = roster.infoAt identity := by
  rw [infoAt, infoAt]
  cases hfound : roster.registry.find? identity with
  | none => rfl
  | some record =>
    obtain ⟨info, hinfo, -⟩ := h.info?_of_find? hfound
    obtain ⟨last, hlast, -⟩ := hlater.info?_of_find? hfound
    change later.info? record = roster.records.info? record
    rw [hlast, hcontinues.agrees record (hfresh.lt_next hinfo) last hlast]

end Roster

namespace Watch

variable {ω : Type} {watch : Watch ω} {roster : Roster ω}

theorem infoAt_appear (hsound : roster.Sound watch.filter) (hfresh : roster.records.Fresh)
    (info : Info) (identity : Identity) :
    (watch.appear roster info).1.infoAt identity =
      watch.filter.hold identity (roster.infoAt identity) (.added info) := by
  rw [Filter.hold]
  by_cases h : watch.filter.passes info = true ∧
    (roster.registry.find? info.identity).isNone = true
  · have hkeeps := (succeeds_appear hsound hfresh info).keeps
    rw [appear_of_absent h.1 h.2] at hkeeps ⊢
    rw [Roster.infoAt, Registry.find?_insert]
    by_cases heq : identity = info.identity
    · have hnone : roster.infoAt identity = none := by
        rw [Roster.infoAt_eq_none hsound, heq]
        exact Option.isNone_iff_eq_none.1 h.2
      rw [if_pos heq, if_pos ⟨h.1, heq.symm⟩, hnone, Option.none_or, Option.bind_some,
        Records.info?_retain, Records.info?_create, if_pos rfl]
    · rw [if_neg heq, if_neg fun hmatch => heq hmatch.2.symm]
      exact Roster.infoAt_extend hsound hkeeps identity
  · rw [appear_of_not h]
    split
    · next hmatch =>
      have htaken : roster.infoAt identity ≠ none := by
        rw [Ne, Roster.infoAt_eq_none hsound]
        intro hnone
        rw [← hmatch.2] at hnone
        exact h ⟨hmatch.1, Option.isNone_iff_eq_none.2 hnone⟩
      obtain ⟨held, hheld⟩ := Option.ne_none_iff_exists'.1 htaken
      rw [hheld, Option.some_or]
    · rfl

theorem infoAt_vanish (key : String) (identity : Identity) :
    (vanish roster key).1.infoAt identity =
      watch.filter.hold identity (roster.infoAt identity) (.removed key) := by
  have hinfo : (vanish roster key).1.records.info? = roster.records.info? :=
    funext fun record => Records.info?_foldl_disconnect ..
  rw [Filter.hold, Roster.infoAt, hinfo]
  change ((roster.registry.without key).find? identity).bind _ = _
  rw [Registry.find?_without]
  split
  · rfl
  · rfl

/-- A notice acts on each identity for itself. -/
theorem infoAt_apply (hsound : roster.Sound watch.filter) (hfresh : roster.records.Fresh)
    (notice : Notice) (identity : Identity) :
    (watch.apply roster notice).1.infoAt identity =
      watch.filter.hold identity (roster.infoAt identity) notice := by
  cases notice with
  | added info => exact infoAt_appear hsound hfresh info identity
  | removed key => exact infoAt_vanish key identity

theorem infoAt_applyAll (hsound : roster.Sound watch.filter) (hfresh : roster.records.Fresh)
    (notices : List Notice) (identity : Identity) :
    (watch.applyAll roster notices).1.infoAt identity =
      notices.foldl (watch.filter.hold identity) (roster.infoAt identity) := by
  induction notices generalizing roster with
  | nil => rfl
  | cons notice rest ih =>
    have hstep := succeeds_apply hsound hfresh notice
    rw [List.foldl_cons, ← infoAt_apply hsound hfresh notice identity]
    exact ih hstep.sound hstep.fresh

end Watch

namespace Hub.Sound

variable {σ : Type} [Platform σ] {outside : List RecordId} {hub : Hub σ}

/-- A monitor that starts knows the devices found. -/
theorem infoAt_begun (h : hub.Sound outside) (origin : Platform.Origin σ) (filter : Filter)
    (source : Platform.Source σ) (found : List Info) :
    ∃ monitor, (hub.begun { origin, filter, source } found).monitors =
        hub.monitors.insert hub.nextMonitor monitor ∧
      monitor.filter = filter ∧ monitor.source = source ∧
      ∀ identity, ((hub.begun { origin, filter, source } found).roster monitor).infoAt identity =
        filter.first identity found := by
  have hempty : (hub.roster { origin, filter, source }).Sound filter := .empty hub.records filter
  have hsucceeds := succeeds_notices hempty h.fresh hub.nextMonitor (found.map .added)
  refine ⟨_, rfl, rfl, rfl, fun identity => ?_⟩
  have hbegun := (h.begun origin filter source found).registries hub.nextMonitor _
    ((Table.get?_insert ..).trans (if_pos rfl))
  refine (Roster.infoAt_continues hsucceeds.sound hsucceeds.fresh hbegun
    (Records.continues_releaseAll ..) identity).trans ?_
  refine (Watch.infoAt_applyAll hempty h.fresh (found.map .added) identity).trans ?_
  exact filter.foldl_hold_added identity none found

/-- Notices act on what a monitor knows, for each identity by itself. -/
theorem infoAt_adopt (h : hub.Sound outside) {id : MonitorId} {monitor : Monitor σ}
    (hmonitor : hub.monitors.get? id = some monitor) (platform : σ) (notices : List Notice) :
    let later := (hub.above platform).adopt id monitor
      ((monitor.watch id).applyAll (hub.roster monitor) notices).1
    ∃ next, later.monitors.get? id = some next ∧ next.filter = monitor.filter ∧
      next.source = monitor.source ∧
      ∀ identity, (later.roster next).infoAt identity =
        notices.foldl (monitor.filter.hold identity) ((hub.roster monitor).infoAt identity) := by
  intro later
  refine ⟨_, (Table.get?_insert ..).trans (if_pos rfl), rfl, rfl, fun identity => ?_⟩
  have hroster : (hub.roster monitor).Sound (monitor.watch id).filter :=
    h.registries id monitor hmonitor
  exact Watch.infoAt_applyAll hroster h.fresh notices identity

end Hub.Sound

end Hotplug
