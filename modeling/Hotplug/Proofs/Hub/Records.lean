import Hotplug.Proofs.Table
import Hotplug.Hub.Records
/-!
# Who holds records

Every reference to a record belongs to someone. If the references are counted by holder, a record is
there exactly as long as someone holds it, and what is known of its device never changes meanwhile.

## Main definitions

* `Hotplug.Records.info?`, `Hotplug.Records.status?`, `Hotplug.Records.refsOf`: what there is under a
  name.
* `Hotplug.Records.Fresh`: no record has a name that is still to be given.
* `Hotplug.Records.Counts`: the references are those of some holders.
* `Hotplug.Records.Extends`, `Hotplug.Records.Continues`: how later records go with earlier ones.

## Main statements

* `Hotplug.Records.Counts.create`, `Hotplug.Records.Counts.retain`, `Hotplug.Records.Counts.release`:
  how the holders change with the records.
* `Hotplug.Records.Counts.releaseAll`: what others hold outlasts what is given back.
-/

namespace Hotplug.Records

variable {ω : Type}

/-- What is known of the device of a record. -/
def info? (records : Records ω) (id : RecordId) : Option Info :=
  (records.get? id).map (·.info)

/-- Whether the device of a record is there. -/
def status? (records : Records ω) (id : RecordId) : Option Status :=
  (records.get? id).map (·.status)

/-- How many references there are to a record; none to one that is gone. -/
def refsOf (records : Records ω) (id : RecordId) : Nat :=
  ((records.get? id).map (·.refs)).getD 0

/-- No record has a name that is still to be given. -/
def Fresh (records : Records ω) : Prop :=
  ∀ id, records.next ≤ id → records.get? id = none

/-- The references are those of the holders, who are given by what each of them holds. -/
structure Counts (records : Records ω) (holders : List RecordId) : Prop where
  /-- Every reference belongs to a holder. -/
  count : ∀ id, holders.count id = records.refsOf id
  /-- A record that nobody holds is gone. -/
  pos : ∀ id record, records.get? id = some record → 0 < record.refs

/-- The later records include the earlier ones. -/
def Extends (later records : Records ω) : Prop :=
  ∀ id info, records.info? id = some info → later.info? id = some info

theorem Extends.refl (records : Records ω) : records.Extends records :=
  fun _ _ h => h

theorem Extends.trans {latest later records : Records ω} (h : latest.Extends later)
    (h' : later.Extends records) : latest.Extends records :=
  fun id info hinfo => h id info (h' id info hinfo)

/-- The later records come after the earlier ones: more names may have been given, and under a name
that was given before there is what there was, if it is not gone. -/
structure Continues (later records : Records ω) : Prop where
  next_le : records.next ≤ later.next
  agrees : ∀ id < records.next, ∀ info, later.info? id = some info → records.info? id = some info

theorem Continues.refl (records : Records ω) : records.Continues records :=
  ⟨Nat.le_refl _, fun _ _ _ h => h⟩

theorem Continues.trans {latest later records : Records ω} (h : latest.Continues later)
    (h' : later.Continues records) : latest.Continues records :=
  ⟨Nat.le_trans h'.next_le h.next_le, fun id hid info hinfo =>
    h'.agrees id hid info (h.agrees id (Nat.lt_of_lt_of_le hid h'.next_le) info hinfo)⟩

/-! ### One operation at a time -/

theorem get?_create (records : Records ω) (info : Info) (origin : ω) (monitor : Option MonitorId)
    (id : RecordId) :
    (records.create info origin monitor).2.get? id =
      if id = records.next then some { info, origin, monitor } else records.get? id :=
  Table.get?_insert ..

theorem get?_retain (records : Records ω) (held id : RecordId) :
    (records.retain held).get? id =
      if id = held then (records.get? id).map fun r => { r with refs := r.refs + 1 }
      else records.get? id :=
  Table.get?_update ..

theorem get?_disconnect (records : Records ω) (gone id : RecordId) :
    (records.disconnect gone).get? id =
      if id = gone then (records.get? id).map fun r => { r with status := .disconnected }
      else records.get? id :=
  Table.get?_update ..

theorem get?_release (records : Records ω) (held id : RecordId) :
    (records.release held).get? id =
      if id = held then
        (records.get? id).bind fun r => if r.refs ≤ 1 then none else some { r with refs := r.refs - 1 }
      else records.get? id := by
  unfold release
  cases h : records.get? held with
  | none =>
    change records.get? id = _
    split
    · next heq => rw [heq, h, Option.bind_none]
    · rfl
  | some record =>
    by_cases hlast : record.refs ≤ 1
    · simp only [if_pos hlast]
      change (records.table.erase held).get? id = _
      rw [Table.get?_erase]
      split
      · next heq => rw [heq, h, Option.bind_some, if_pos hlast]
      · rfl
    · simp only [if_neg hlast]
      change (records.table.update held _).get? id = _
      rw [Table.get?_update]
      split
      · next heq =>
        rw [heq, h, Option.bind_some, if_neg hlast]
        change (records.get? held).map _ = _
        rw [h]
        rfl
      · rfl

/-- A reference that is given back leaves nothing behind. -/
theorem release_retain {records : Records ω} {id : RecordId} {record : DeviceRecord ω}
    (hrecord : records.get? id = some record) (hpos : 0 < record.refs) :
    (records.retain id).release id = records := by
  have hretained : (records.retain id).get? id = some { record with refs := record.refs + 1 } := by
    rw [get?_retain, if_pos rfl, hrecord]
    rfl
  rw [release, hretained]
  simp only [if_neg (Nat.not_le_of_gt (Nat.succ_lt_succ hpos))]
  have htable : (records.table.update id fun r => { r with refs := r.refs + 1 }).update id
      (fun r => { r with refs := r.refs - 1 }) = records.table :=
    Table.update_update id fun _ => rfl
  exact congrArg (Records.mk · records.next) htable

theorem refsOf_create (records : Records ω) (info : Info) (origin : ω)
    (monitor : Option MonitorId) (id : RecordId) :
    (records.create info origin monitor).2.refsOf id =
      if id = records.next then 1 else records.refsOf id := by
  rw [refsOf, get?_create]
  split <;> rfl

theorem refsOf_release (records : Records ω) (held id : RecordId) :
    (records.release held).refsOf id =
      if id = held then records.refsOf id - 1 else records.refsOf id := by
  rw [refsOf, get?_release]
  split
  · cases h : records.get? id with
    | none => simp [refsOf, h]
    | some record =>
      simp only [Option.bind_some, refsOf, h, Option.map_some, Option.getD_some]
      split
      · simp only [Option.map_none, Option.getD_none]
        omega
      · rfl
  · rfl

theorem refsOf_retain {records : Records ω} {held : RecordId}
    (h : (records.get? held).isSome = true) (id : RecordId) :
    (records.retain held).refsOf id =
      if id = held then records.refsOf id + 1 else records.refsOf id := by
  rw [refsOf, get?_retain]
  split
  · next heq =>
    obtain ⟨record, hrecord⟩ := Option.isSome_iff_exists.1 h
    simp [refsOf, heq, hrecord]
  · rfl

theorem refsOf_disconnect (records : Records ω) (gone id : RecordId) :
    (records.disconnect gone).refsOf id = records.refsOf id := by
  rw [refsOf, get?_disconnect, refsOf]
  split
  · rw [Option.map_map]
    rfl
  · rfl

theorem info?_retain (records : Records ω) (held id : RecordId) :
    (records.retain held).info? id = records.info? id := by
  rw [info?, get?_retain, info?]
  split
  · rw [Option.map_map]
    rfl
  · rfl

theorem info?_disconnect (records : Records ω) (gone id : RecordId) :
    (records.disconnect gone).info? id = records.info? id := by
  rw [info?, get?_disconnect, info?]
  split
  · rw [Option.map_map]
    rfl
  · rfl

theorem info?_create (records : Records ω) (info : Info) (origin : ω) (monitor : Option MonitorId)
    (id : RecordId) :
    (records.create info origin monitor).2.info? id =
      if id = records.next then some info else records.info? id := by
  rw [info?, get?_create]
  split <;> rfl

theorem status?_create (records : Records ω) (info : Info) (origin : ω)
    (monitor : Option MonitorId) (id : RecordId) :
    (records.create info origin monitor).2.status? id =
      if id = records.next then some .online else records.status? id := by
  rw [status?, get?_create]
  split <;> rfl

theorem status?_retain (records : Records ω) (held id : RecordId) :
    (records.retain held).status? id = records.status? id := by
  rw [status?, get?_retain, status?]
  split
  · rw [Option.map_map]
    rfl
  · rfl

theorem isSome_status?_of_info? {records : Records ω} {id : RecordId} {info : Info}
    (h : records.info? id = some info) : (records.status? id).isSome = true := by
  obtain ⟨record, hrecord, -⟩ := Option.map_eq_some_iff.1 h
  rw [status?, hrecord]
  rfl

theorem Fresh.info?_eq_none {records : Records ω} (h : records.Fresh) {id : RecordId}
    (hid : records.next ≤ id) : records.info? id = none := by
  rw [info?, h id hid]
  rfl

theorem Fresh.lt_next {records : Records ω} (h : records.Fresh) {id : RecordId} {info : Info}
    (hinfo : records.info? id = some info) : id < records.next := by
  refine Nat.lt_of_not_le fun hle => ?_
  rw [h.info?_eq_none hle] at hinfo
  cases hinfo

theorem Fresh.lt_next_of_get? {records : Records ω} (h : records.Fresh) {id : RecordId}
    {record : DeviceRecord ω} (hrecord : records.get? id = some record) : id < records.next := by
  refine Nat.lt_of_not_le fun hle => ?_
  rw [h id hle] at hrecord
  cases hrecord

theorem Fresh.create {records : Records ω} (h : records.Fresh) (info : Info) (origin : ω)
    (monitor : Option MonitorId) : (records.create info origin monitor).2.Fresh := by
  intro id hid
  rw [get?_create, if_neg (Nat.ne_of_gt (Nat.lt_of_succ_le hid))]
  exact h id (Nat.le_of_succ_le hid)

theorem Fresh.retain {records : Records ω} (h : records.Fresh) (held : RecordId) :
    (records.retain held).Fresh := by
  intro id hid
  rw [get?_retain, h id hid]
  simp

theorem next_release (records : Records ω) (held : RecordId) :
    (records.release held).next = records.next := by
  unfold release
  split
  · rfl
  · split <;> rfl

theorem Fresh.release {records : Records ω} (h : records.Fresh) (held : RecordId) :
    (records.release held).Fresh := by
  intro id hid
  rw [next_release] at hid
  rw [get?_release, h id hid]
  simp

theorem Fresh.disconnect {records : Records ω} (h : records.Fresh) (gone : RecordId) :
    (records.disconnect gone).Fresh := by
  intro id hid
  rw [get?_disconnect, h id hid]
  simp

theorem extends_create {records : Records ω} (h : records.Fresh) (info : Info) (origin : ω)
    (monitor : Option MonitorId) : (records.create info origin monitor).2.Extends records := by
  intro id known hknown
  rw [info?_create, if_neg (Nat.ne_of_lt (h.lt_next hknown)), hknown]

theorem continues_create (records : Records ω) (info : Info) (origin : ω)
    (monitor : Option MonitorId) : (records.create info origin monitor).2.Continues records := by
  refine ⟨Nat.le_succ _, fun id hid known hknown => ?_⟩
  rwa [info?_create, if_neg (Nat.ne_of_lt hid)] at hknown

theorem continues_retain (records : Records ω) (held : RecordId) :
    (records.retain held).Continues records :=
  ⟨Nat.le_refl _, fun id _ _ hinfo => (info?_retain records held id).symm.trans hinfo⟩

theorem continues_release (records : Records ω) (held : RecordId) :
    (records.release held).Continues records := by
  refine ⟨Nat.le_of_eq (next_release records held).symm, fun id _ info hinfo => ?_⟩
  rw [info?, get?_release] at hinfo
  split at hinfo
  · obtain ⟨after, hafter, rfl⟩ := Option.map_eq_some_iff.1 hinfo
    obtain ⟨record, hrecord, hsome⟩ := Option.bind_eq_some_iff.1 hafter
    rw [info?, hrecord]
    split at hsome
    · cases hsome
    · cases hsome
      rfl
  · exact hinfo

/-! ### Holders -/

namespace Counts

variable {records : Records ω} {holders : List RecordId}

/-- What someone holds is there. -/
theorem isSome_of_mem (h : records.Counts holders) {id : RecordId} (hid : id ∈ holders) :
    (records.get? id).isSome = true := by
  have hpos : 0 < records.refsOf id := h.count id ▸ List.count_pos_iff.2 hid
  cases hget : records.get? id with
  | none => simp [refsOf, hget] at hpos
  | some record => rfl

/-- The order of the holders does not matter. -/
theorem of_count_eq (h : records.Counts holders) {others : List RecordId}
    (heq : ∀ id, others.count id = holders.count id) : records.Counts others :=
  ⟨fun id => (heq id).trans (h.count id), h.pos⟩

/-- The maker of a record is one more holder. -/
theorem create (h : records.Counts holders) (hfresh : records.Fresh) (info : Info) (origin : ω)
    (monitor : Option MonitorId) :
    (records.create info origin monitor).2.Counts (records.next :: holders) := by
  refine ⟨fun id => ?_, fun id record hrecord => ?_⟩
  · have hnext : records.refsOf records.next = 0 := by
      simp [refsOf, hfresh records.next (Nat.le_refl _)]
    have hcount := h.count id
    rw [refsOf_create, List.count_cons]
    by_cases hid : id = records.next
    · subst hid
      simp [hcount, hnext]
    · have hne : ¬records.next = id := fun heq => hid heq.symm
      simp [hid, hne, hcount]
  · rw [get?_create] at hrecord
    split at hrecord
    · cases hrecord
      exact Nat.one_pos
    · exact h.pos id record hrecord

/-- Whoever takes a reference is one more holder. -/
theorem retain (h : records.Counts holders) {held : RecordId}
    (hheld : (records.get? held).isSome = true) :
    (records.retain held).Counts (held :: holders) := by
  refine ⟨fun id => ?_, fun id record hrecord => ?_⟩
  · rw [refsOf_retain hheld, List.count_cons, h.count id]
    by_cases hid : id = held
    · simp [hid]
    · have hne : ¬held = id := fun heq => hid heq.symm
      simp [hid, hne]
  · rw [get?_retain] at hrecord
    split at hrecord
    · obtain ⟨earlier, -, rfl⟩ := Option.map_eq_some_iff.1 hrecord
      exact Nat.succ_pos _
    · exact h.pos id record hrecord

/-- Whoever gives a reference back is a holder less. -/
theorem release {held : RecordId} (h : records.Counts (held :: holders)) :
    (records.release held).Counts holders := by
  refine ⟨fun id => ?_, fun id record hrecord => ?_⟩
  · have hcount := h.count id
    rw [List.count_cons] at hcount
    rw [refsOf_release, ← hcount]
    by_cases hid : id = held
    · simp [hid]
    · have hne : ¬held = id := fun heq => hid heq.symm
      simp [hid, hne]
  · rw [get?_release] at hrecord
    split at hrecord
    · obtain ⟨earlier, -, hsome⟩ := Option.bind_eq_some_iff.1 hrecord
      split at hsome
      · cases hsome
      · cases hsome
        change 0 < earlier.refs - 1
        omega
    · exact h.pos id record hrecord

/-- What others hold outlasts a reference that is given back. -/
theorem info?_release {held : RecordId} (h : records.Counts (held :: holders)) {id : RecordId}
    (hid : id ∈ holders) : (records.release held).info? id = records.info? id := by
  rw [info?, get?_release, info?]
  split
  · next heq =>
    -- Two references at least, as the one that is given back is not the one of the other holder.
    have hcount := h.count id
    rw [heq, List.count_cons_self] at hcount
    have hpos := List.count_pos_iff.2 (heq ▸ hid)
    cases hget : records.get? id with
    | none => rfl
    | some record =>
      rw [← heq, refsOf, hget, Option.map_some, Option.getD_some] at hcount
      rw [heq] at hcount
      rw [Option.bind_some, if_neg (by omega)]
      rfl
  · rfl

theorem disconnect (h : records.Counts holders) (gone : RecordId) :
    (records.disconnect gone).Counts holders := by
  refine ⟨fun id => ?_, fun id record hrecord => ?_⟩
  · rw [refsOf_disconnect]
    exact h.count id
  · rw [get?_disconnect] at hrecord
    split at hrecord
    · obtain ⟨earlier, hearlier, rfl⟩ := Option.map_eq_some_iff.1 hrecord
      exact h.pos id earlier hearlier
    · exact h.pos id record hrecord

/-- What others hold outlasts the references of a list that are given back. -/
theorem releaseAll {ids : List RecordId} (h : records.Counts (ids ++ holders)) :
    (records.releaseAll ids).Counts holders ∧
      ∀ id ∈ holders, (records.releaseAll ids).info? id = records.info? id := by
  induction ids generalizing records with
  | nil => exact ⟨h, fun _ _ => rfl⟩
  | cons held rest ih =>
    obtain ⟨hcounts, hinfo⟩ := ih h.release
    refine ⟨hcounts, fun id hid => ?_⟩
    rw [← h.info?_release (List.mem_append_right rest hid)]
    exact hinfo id hid

/-- Whoever makes records of a list of devices is a holder of each. -/
theorem createAll (h : records.Counts holders) (hfresh : records.Fresh) (origin : ω)
    (monitor : Option MonitorId) (infos : List Info) :
    (records.createAll origin monitor infos).2.Counts
        ((records.createAll origin monitor infos).1 ++ holders) ∧
      (records.createAll origin monitor infos).2.Fresh ∧
      (records.createAll origin monitor infos).2.Extends records := by
  induction infos generalizing records holders with
  | nil => exact ⟨h, hfresh, .refl records⟩
  | cons info rest ih =>
    obtain ⟨hcounts, hlater, hextends⟩ :=
      ih (h.create hfresh info origin monitor) (hfresh.create info origin monitor)
    refine ⟨hcounts.of_count_eq fun id => ?_, hlater,
      hextends.trans (extends_create hfresh info origin monitor)⟩
    change List.count id (records.next ::
      ((records.create info origin monitor).2.createAll origin monitor rest).1 ++ holders) = _
    simp only [List.cons_append, List.count_cons, List.count_append]
    omega

end Counts

theorem continues_releaseAll (records : Records ω) (ids : List RecordId) :
    (records.releaseAll ids).Continues records := by
  induction ids generalizing records with
  | nil => exact .refl records
  | cons id rest ih => exact (ih (records.release id)).trans (continues_release records id)

theorem continues_createAll (records : Records ω) (origin : ω) (monitor : Option MonitorId)
    (infos : List Info) : (records.createAll origin monitor infos).2.Continues records := by
  induction infos generalizing records with
  | nil => exact .refl records
  | cons info rest ih =>
    exact (ih (records.create info origin monitor).2).trans
      (continues_create records info origin monitor)

theorem get?_createAll_of_lt (records : Records ω) (origin : ω) (monitor : Option MonitorId)
    (infos : List Info) {id : RecordId} (hid : id < records.next) :
    (records.createAll origin monitor infos).2.get? id = records.get? id := by
  induction infos generalizing records with
  | nil => rfl
  | cons info rest ih =>
    refine (ih (records.create info origin monitor).2 (Nat.lt_succ_of_lt hid)).trans ?_
    rw [get?_create, if_neg (Nat.ne_of_lt hid)]

/-- Records made of a list of devices get new names. -/
theorem get?_of_mem_createAll (records : Records ω) (origin : ω) (monitor : Option MonitorId)
    (infos : List Info) : ∀ id ∈ (records.createAll origin monitor infos).1, records.next ≤ id ∧
      ∃ info ∈ infos, (records.createAll origin monitor infos).2.get? id =
        some { info, origin, monitor } := by
  induction infos generalizing records with
  | nil => nofun
  | cons info rest ih =>
    intro id hid
    rcases List.mem_cons.1 hid with rfl | hid
    · refine ⟨Nat.le_refl _, info, List.mem_cons_self, ?_⟩
      refine (get?_createAll_of_lt _ origin monitor rest (Nat.lt_succ_self _)).trans ?_
      exact (get?_create records info origin monitor _).trans (if_pos rfl)
    · obtain ⟨hle, found, hfound, hget⟩ := ih (records.create info origin monitor).2 id hid
      exact ⟨Nat.le_of_succ_le hle, found, List.mem_cons_of_mem _ hfound, hget⟩

theorem Fresh.releaseAll {records : Records ω} (h : records.Fresh) (ids : List RecordId) :
    (records.releaseAll ids).Fresh := by
  induction ids generalizing records with
  | nil => exact h
  | cons id rest ih => exact ih (h.release id)

/-! ### Disconnecting a list -/

/-- Disconnecting changes the status of the records named, and nothing else. -/
theorem get?_foldl_disconnect (records : Records ω) (gone : List RecordId) (id : RecordId) :
    (gone.foldl disconnect records).get? id =
      if id ∈ gone then (records.get? id).map fun r => { r with status := .disconnected }
      else records.get? id := by
  induction gone generalizing records with
  | nil => simp
  | cons first rest ih =>
    rw [List.foldl_cons, ih, get?_disconnect]
    by_cases hrest : id ∈ rest
    · rw [if_pos hrest, if_pos (List.mem_cons_of_mem _ hrest)]
      split
      · rw [Option.map_map]
        rfl
      · rfl
    · rw [if_neg hrest]
      by_cases hfirst : id = first
      · rw [if_pos hfirst, if_pos (hfirst ▸ List.mem_cons_self)]
      · rw [if_neg hfirst, if_neg (by simp [hfirst, hrest])]

theorem status?_foldl_disconnect (records : Records ω) (gone : List RecordId) (id : RecordId) :
    (gone.foldl disconnect records).status? id =
      if id ∈ gone then (records.status? id).map fun _ => .disconnected else records.status? id := by
  rw [status?, get?_foldl_disconnect, status?]
  split
  · rw [Option.map_map, Option.map_map]
    rfl
  · rfl

theorem info?_foldl_disconnect (records : Records ω) (gone : List RecordId) (id : RecordId) :
    (gone.foldl disconnect records).info? id = records.info? id := by
  induction gone generalizing records with
  | nil => rfl
  | cons first rest ih => rw [List.foldl_cons, ih, info?_disconnect]

theorem next_foldl_disconnect (records : Records ω) (gone : List RecordId) :
    (gone.foldl disconnect records).next = records.next := by
  induction gone generalizing records with
  | nil => rfl
  | cons first rest ih => exact ih (records.disconnect first)

theorem continues_foldl_disconnect (records : Records ω) (gone : List RecordId) :
    (gone.foldl disconnect records).Continues records :=
  ⟨Nat.le_of_eq (next_foldl_disconnect records gone).symm, fun id _ _ hinfo =>
    (info?_foldl_disconnect records gone id).symm.trans hinfo⟩

theorem Fresh.foldl_disconnect {records : Records ω} (h : records.Fresh) (gone : List RecordId) :
    (gone.foldl Records.disconnect records).Fresh := by
  induction gone generalizing records with
  | nil => exact h
  | cons first rest ih => exact ih (h.disconnect first)

theorem Counts.foldl_disconnect {records : Records ω} {holders : List RecordId}
    (h : records.Counts holders) (gone : List RecordId) :
    (gone.foldl Records.disconnect records).Counts holders := by
  induction gone generalizing records with
  | nil => exact h
  | cons first rest ih => exact ih (h.disconnect first)

end Hotplug.Records
