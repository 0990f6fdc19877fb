import Hotplug.Node.Hidraw
import Hotplug.Proofs.Hoare
import Hotplug.Proofs.Node.Scripted
import Hotplug.Proofs.Uevent.Verdict
/-!
# Control requests and their buffers

A control request says in its number how many bytes of memory the kernel may read and write. Whatever the
lengths of reports and buffers are and whatever the kernel answers, the number that is sent says no more
than the buffer has, and a report descriptor is cut out of what the buffer holds.

## Main definitions

* `Hotplug.Hid.Request.Decodes`: the fields of the number of a request.
* `Hotplug.Kernel.Insists`: a request is made until it is not cut short.
* `Hotplug.Node.Exchanged`: a request is answered, and its buffer holds all that it speaks of.
* `Hotplug.Node.SendsFeature`, `Hotplug.Node.GetsFeature`, `Hotplug.Node.GivesDescriptor`: everything that
  can come of a transfer.

## Main statements

* `Hotplug.Hid.Request.decodes_build`: a number has the fields that it was built from.
* `Hotplug.Kernel.insists_uninterrupted`: a request is answered, however often it is cut short.
* `Hotplug.Node.requests_in_bounds`
-/

namespace Hotplug

/-! ### Numbers of requests -/

namespace Hid.Request

/-- The fields of the number of a request, by their places among its bits. -/
structure Decodes (request : Request) (direction size type number : Nat) : Prop where
  direction : request.code.toNat / 2 ^ 30 = direction
  size : request.code.toNat / 2 ^ 16 % 2 ^ 14 = size
  type : request.code.toNat / 2 ^ 8 % 2 ^ 8 = type
  number : request.code.toNat % 2 ^ 8 = number

theorem shiftLeft_or (high : Nat) {low places : Nat} (h : low < 2 ^ places) :
    high <<< places ||| low = high * 2 ^ places + low := by
  rw [← Nat.shiftLeft_add_eq_or_of_lt h, Nat.shiftLeft_eq]

/-- A shift that pushes nothing out at the top. -/
theorem toNat_shiftLeft (word places : UInt32) (hplaces : places.toNat < 32)
    (h : word.toNat * 2 ^ places.toNat < 2 ^ 32) :
    (word <<< places).toNat = word.toNat <<< places.toNat := by
  rw [UInt32.toNat_shiftLeft, Nat.mod_eq_of_lt hplaces, Nat.shiftLeft_eq, Nat.mod_eq_of_lt h]

/-- Fields that are not too large stand side by side. -/
theorem toNat_build {direction number : UInt32} {size : Nat} (hdirection : direction.toNat < 2 ^ 2)
    (hsize : size < 2 ^ 14) (hnumber : number.toNat < 2 ^ 8) :
    (build direction number (.ofNat size)).code.toNat =
      direction.toNat * 2 ^ 30 + (size * 2 ^ 16 + (0x48 * 2 ^ 8 + number.toNat)) := by
  have hword : (UInt32.ofNat size).toNat = size :=
    UInt32.toNat_ofNat_of_lt' (Nat.lt_trans hsize (by decide))
  have hhigh : (direction <<< 30).toNat = direction.toNat <<< 30 :=
    toNat_shiftLeft direction 30 (by decide)
      (Nat.mul_lt_mul_of_pos_right hdirection (Nat.two_pow_pos 30))
  have hmiddle : (UInt32.ofNat size <<< 16).toNat = size <<< 16 := by
    refine (toNat_shiftLeft _ 16 (by decide) ?_).trans (congrArg (· <<< 16) hword)
    change _ * 2 ^ 16 < 2 ^ 32
    omega
  calc (build direction number (.ofNat size)).code.toNat
    _ = direction.toNat <<< 30 ||| (size <<< 16 ||| (0x48 <<< 8 ||| number.toNat)) := by
      simp only [build, UInt32.toNat_or, Nat.or_assoc, hhigh, hmiddle]
      rfl
    _ = direction.toNat <<< 30 ||| (size <<< 16 ||| (0x48 * 2 ^ 8 + number.toNat)) :=
      congrArg (fun low => direction.toNat <<< 30 ||| (size <<< 16 ||| low)) (shiftLeft_or _ hnumber)
    _ = direction.toNat <<< 30 ||| (size * 2 ^ 16 + (0x48 * 2 ^ 8 + number.toNat)) :=
      congrArg (direction.toNat <<< 30 ||| ·) (shiftLeft_or size (by omega))
    _ = direction.toNat * 2 ^ 30 + (size * 2 ^ 16 + (0x48 * 2 ^ 8 + number.toNat)) :=
      shiftLeft_or direction.toNat (by omega)

theorem decodes_build {direction number : UInt32} {size : Nat} (hdirection : direction.toNat < 2 ^ 2)
    (hsize : size < 2 ^ 14) (hnumber : number.toNat < 2 ^ 8) :
    (build direction number (.ofNat size)).Decodes direction.toNat size 0x48 number.toNat := by
  have hcode := toNat_build hdirection hsize hnumber
  constructor <;> omega

theorem decodes_setFeature {size : Nat} (h : size ≤ maxRequestSize) :
    (setFeature size).Decodes 3 size 0x48 6 :=
  decodes_build (by decide) (Nat.lt_succ_of_le h) (by decide)

theorem decodes_getFeature {size : Nat} (h : size ≤ maxRequestSize) :
    (getFeature size).Decodes 3 size 0x48 7 :=
  decodes_build (by decide) (Nat.lt_succ_of_le h) (by decide)

example : (setFeature 65).code = 0xC0414806 ∧ (getFeature 9).code = 0xC0094807 := by decide

theorem decodes_descriptorSize : descriptorSize.Decodes 2 4 0x48 1 :=
  decodes_build (by decide) (by decide) (by decide)

theorem decodes_descriptor : descriptor.Decodes 2 4100 0x48 2 :=
  decodes_build (by decide) (by decide) (by decide)

/-- The kernel reads the same size out of the number. -/
theorem Decodes.size_eq {request : Request} {direction size type number : Nat}
    (h : request.Decodes direction size type number) : request.size = size := by
  have hmask := Nat.and_two_pow_sub_one_eq_mod (request.code.toNat >>> 16) 14
  rw [← h.size, ← Nat.shiftRight_eq_div_pow, ← hmask, Request.size]
  rfl

end Hid.Request

/-! ### Requests until one is answered -/

namespace Kernel

variable {fd : Nat} {request : Hid.Request} {buffer : Bytes} {kernel later : Kernel} {cuts : Nat}
  {answer : Except Errno (Nat × Bytes)}

/-- A request on a descriptor, with the same buffer each time, until it is not cut short: how often it was,
and what it was answered then. -/
inductive Insists (fd : Nat) (request : Hid.Request) (buffer : Bytes) :
    Kernel → Nat → Except Errno (Nat × Bytes) → Kernel → Prop
  | answered {kernel later : Kernel} {answer : Except Errno (Nat × Bytes)}
    (h : (control fd request buffer).Ends kernel (.returned answer) later)
    (hanswer : answer ≠ .error .interrupted) : Insists fd request buffer kernel 0 answer later
  | cut {kernel middle later : Kernel} {cuts : Nat} {answer : Except Errno (Nat × Bytes)}
    (h : (control fd request buffer).Ends kernel (.returned (.error .interrupted)) middle)
    (hlater : Insists fd request buffer middle cuts answer later) :
    Insists fd request buffer kernel (cuts + 1) answer later

theorem ends_control_unscripted (h : kernel.endpoint? fd ≠ some .scripted) (request : Hid.Request)
    (buffer : Bytes) : ∃ errno, errno ≠ .interrupted ∧
      (control fd request buffer).Ends kernel (.returned (.error errno)) kernel := by
  cases hendpoint : kernel.endpoint? fd with
  | none =>
    refine ⟨.badDescriptor, by decide, .bind ⟨rfl, rfl⟩ ?_⟩
    rw [hendpoint]
    exact ⟨rfl, rfl⟩
  | some endpoint =>
    refine ⟨.notTerminal, by decide, .bind ⟨rfl, rfl⟩ ?_⟩
    rw [hendpoint]
    cases endpoint with
    | scripted => exact absurd hendpoint h
    | file contents position => exact ⟨rfl, rfl⟩
    | stream stream => exact ⟨rfl, rfl⟩

/-- A request is answered. Only a script cuts it short, and the script has an answer less then. -/
theorem control_answers (fd : Nat) (request : Hid.Request) (buffer : Bytes) (kernel : Kernel) :
    ∃ answer later, (control fd request buffer).Ends kernel (.returned answer) later ∧
      (answer = .error .interrupted →
        later.script.controls.length < kernel.script.controls.length) := by
  by_cases hscripted : kernel.endpoint? fd = some .scripted
  · have hrun := run_control_scripted hscripted request buffer
    refine ⟨_, _, ⟨congrArg Outcome.ending hrun, congrArg Outcome.state hrun⟩, fun heq => ?_⟩
    cases hcontrols : kernel.script.controls with
    | nil =>
      rw [hcontrols] at heq
      cases heq
    | cons reply rest => simp
  · obtain ⟨errno, hne, hends⟩ := ends_control_unscripted hscripted request buffer
    exact ⟨.error errno, kernel, hends, fun heq => absurd (Except.error.inj heq) hne⟩

theorem insists_uninterrupted (fd : Nat) (request : Hid.Request) (buffer : Bytes) {tries : Nat}
    (h : kernel.script.controls.length < tries) :
    ∃ cuts answer later, kernel.Insists fd request buffer cuts answer later ∧
      (Node.uninterrupted (control fd request buffer) tries).Ends kernel (.returned answer) later := by
  induction tries generalizing kernel with
  | zero => exact absurd h (Nat.not_lt_zero _)
  | succ more ih =>
    obtain ⟨answer, middle, hends, hless⟩ := control_answers fd request buffer kernel
    by_cases hcut : answer = .error .interrupted
    · -- It took an answer off the script, so the tries that are left outlast the answers that are.
      have hfewer := hless hcut
      subst hcut
      obtain ⟨cuts, last, later, hinsists, hlater⟩ :=
        ih (Nat.lt_of_lt_of_le hfewer (Nat.le_of_lt_succ h))
      exact ⟨cuts + 1, last, later, .cut hends hinsists, hends.bind hlater⟩
    · refine ⟨0, answer, middle, .answered hends hcut, hends.bind ?_⟩
      cases answer with
      | ok reply => exact ⟨rfl, rfl⟩
      | error errno =>
        have hne : errno ≠ .interrupted := fun heq => hcut (congrArg _ heq)
        dsimp only
        rw [if_neg hne]
        exact ⟨rfl, rfl⟩

theorem Insists.calls (h : kernel.Insists fd request buffer cuts answer later)
    (hscripted : kernel.endpoint? fd = some .scripted) :
    later.calls =
      kernel.calls ++ List.replicate (cuts + 1) (.control request (buffer.take request.size)) := by
  induction h with
  | answered hends _ =>
    obtain ⟨-, rfl⟩ := hends
    rw [run_control_scripted hscripted]
    rfl
  | cut hends _ ih =>
    obtain ⟨-, rfl⟩ := hends
    rw [run_control_scripted hscripted] at ih
    rw [ih hscripted, List.append_assoc]
    rfl

/-- What the kernel stores, it stores in the part of the buffer that the request speaks of. -/
theorem control_stores (hfits : request.size ≤ buffer.length) {value : Nat} {left : Bytes}
    (h : (control fd request buffer).Ends kernel (.returned (.ok (value, left))) later) :
    left.length = buffer.length ∧ left.drop request.size = buffer.drop request.size := by
  by_cases hscripted : kernel.endpoint? fd = some .scripted
  · have hending := h.1
    rw [run_control_scripted hscripted] at hending
    replace hending := Ending.returned.inj hending
    cases hnext : nextAnswer (.error .badDescriptor) kernel.script.controls with
    | error errno =>
      rw [hnext] at hending
      cases hending
    | ok reply =>
      rw [hnext] at hending
      cases hending
      have hstored : (reply.stored.take request.size).length ≤ request.size := List.length_take_le ..
      constructor
      · rw [List.length_append, List.length_drop]
        omega
      · rw [List.drop_append, List.drop_eq_nil_of_le hstored, List.drop_drop, List.nil_append]
        congr 1
        omega
  · obtain ⟨errno, -, hends⟩ := ends_control_unscripted hscripted request buffer
    have hreturned := h.1
    rw [hends.1] at hreturned
    cases hreturned

theorem Insists.stores (h : kernel.Insists fd request buffer cuts answer later)
    (hfits : request.size ≤ buffer.length) {value : Nat} {left : Bytes}
    (hanswer : answer = .ok (value, left)) :
    left.length = buffer.length ∧ left.drop request.size = buffer.drop request.size := by
  induction h with
  | answered hends _ =>
    subst hanswer
    exact control_stores hfits hends
  | cut _ _ ih => exact ih hanswer

end Kernel

/-! ### Transfers -/

namespace Node

variable {node : Node} {request : Hid.Request} {buffer : Bytes} {kernel middle later : Kernel}
  {answer : Except Errno (Nat × Bytes)} {α : Type}

/-- A request is answered. Its buffer holds every byte that its number speaks of, and the kernel stored
nothing anywhere else. -/
structure Exchanged (node : Node) (kernel : Kernel) (request : Hid.Request) (buffer : Bytes)
    (answer : Except Errno (Nat × Bytes)) (later : Kernel) : Prop where
  fits : request.size ≤ buffer.length
  stores : ∀ value left, answer = .ok (value, left) →
    left.length = buffer.length ∧ left.drop request.size = buffer.drop request.size
  insists : ∃ cuts, kernel.Insists node.fd request buffer cuts answer later ∧
    (kernel.endpoint? node.fd = some .scripted → later.calls =
      kernel.calls ++ List.replicate (cuts + 1) (.control request (buffer.take request.size)))

theorem exists_exchanged (node : Node) (kernel : Kernel) (h : request.size ≤ buffer.length) :
    ∃ answer later, node.Exchanged kernel request buffer answer later ∧
      (node.control request buffer).Ends kernel (.returned answer) later := by
  obtain ⟨cuts, answer, later, hinsists, hends⟩ := Kernel.insists_uninterrupted node.fd request buffer
    (Nat.lt_succ_self kernel.script.controls.length)
  exact ⟨answer, later, ⟨h, fun _ _ => hinsists.stores h, cuts, hinsists, hinsists.calls⟩, hends⟩

/-- What comes of a feature transfer. A device that is busy transfers nothing. -/
def featureEnding (node : Node) (request : Hid.Request) (nothing : α) (value : Nat × Bytes → α) :
    Except Errno (Nat × Bytes) → Ending α
  | .ok reply => .returned (value reply)
  | .error errno =>
    if errno = .again then .returned nothing else .failed (node.controlFailure request errno)

theorem ends_feature {nothing : α} {value : Nat × Bytes → α}
    {rest : Except Errno (Nat × Bytes) → Action Kernel α}
    (h : (node.control request buffer).Ends kernel (.returned answer) later)
    (hok : ∀ reply, rest (.ok reply) = pure (value reply))
    (herror : ∀ errno, rest (.error errno) =
      if errno = .again then pure nothing else Action.fail (node.controlFailure request errno)) :
    (node.control request buffer >>= rest).Ends kernel
      (node.featureEnding request nothing value answer) later := by
  refine h.bind ?_
  cases answer with
  | ok reply =>
    rw [hok]
    exact ⟨rfl, rfl⟩
  | error errno =>
    rw [herror]
    dsimp only [featureEnding]
    split
    · exact ⟨rfl, rfl⟩
    · exact ⟨rfl, rfl⟩

/-- Everything that can come of sending a feature report. -/
inductive SendsFeature (node : Node) (report : Bytes) (kernel : Kernel) : Ending Nat → Kernel → Prop
  /-- No request is made for a report that does not fit one. -/
  | tooLong (h : 16383 < report.length) :
    SendsFeature node report kernel (.failed (.invalid ("Feature report of " ++
      toString report.length ++ " bytes exceeds the ioctl size limit"))) kernel
  | answered {request : Hid.Request} {answer : Except Errno (Nat × Bytes)} {later : Kernel}
    (h : report.length ≤ 16383) (hfields : request.Decodes 3 report.length 0x48 6)
    (hexchanged : node.Exchanged kernel request report answer later) :
    SendsFeature node report kernel
      (node.featureEnding request 0 (fun _ => report.length) answer) later

/-- Everything that can come of asking for a feature report. -/
inductive GetsFeature (node : Node) (id : UInt8) (given : Bytes) (kernel : Kernel) :
    Ending (Nat × Bytes) → Kernel → Prop
  /-- No request is made without a buffer. -/
  | noRoom (h : given = []) :
    GetsFeature node id given kernel (.failed (.invalid "Feature report buffer is empty")) kernel
  /-- The number of the report takes the first place in the buffer, and the rest is as it was given. -/
  | answered {request : Hid.Request} {buffer : Bytes} {answer : Except Errno (Nat × Bytes)}
    {later : Kernel} (hfields : request.Decodes 3 (min given.length 16383) 0x48 7)
    (hroom : buffer.length = given.length) (hid : buffer.head? = some id)
    (hrest : buffer.tail = given.tail) (hexchanged : node.Exchanged kernel request buffer answer later) :
    GetsFeature node id given kernel
      (node.featureEnding request (0, buffer) (fun reply => reply) answer) later

/-- The number that four bytes stand for, the highest bit of which is a sign. -/
def signedWord (word : Bytes) : Int :=
  (littleEndian (word.take 4) : Int).bmod (2 ^ 32)

/-- The structure that a report descriptor is put into, with a size in front that is within what it has
room for. -/
structure Prepared (size : Int) (buffer : Bytes) : Prop where
  length : buffer.length = 4 + 4096
  size : (littleEndian (buffer.take 4) : Int) = max 0 (min size 4096)

/-- Everything that can come of asking for the report descriptor. -/
inductive GivesDescriptor (node : Node) (kernel : Kernel) : Ending Bytes → Kernel → Prop
  /-- The size is not told. -/
  | noSize {errno : Errno} {later : Kernel}
    (hsize : node.Exchanged kernel .descriptorSize [0, 0, 0, 0] (.error errno) later) :
    GivesDescriptor node kernel (.failed (node.controlFailure .descriptorSize errno)) later
  /-- The bytes are not given. -/
  | noBytes {value : Nat} {word buffer : Bytes} {errno : Errno} {middle later : Kernel}
    (hsize : node.Exchanged kernel .descriptorSize [0, 0, 0, 0] (.ok (value, word)) middle)
    (hprepared : Prepared (signedWord word) buffer)
    (hbytes : node.Exchanged middle .descriptor buffer (.error errno) later) :
    GivesDescriptor node kernel (.failed (node.controlFailure .descriptor errno)) later
  /-- What is returned is there: the first bytes behind the size that the kernel left. -/
  | given {value value' : Nat} {word buffer left data : Bytes} {middle later : Kernel}
    (hsize : node.Exchanged kernel .descriptorSize [0, 0, 0, 0] (.ok (value, word)) middle)
    (hprepared : Prepared (signedWord word) buffer)
    (hbytes : node.Exchanged middle .descriptor buffer (.ok (value', left)) later)
    (hdata : data <+: left.drop 4) (hlength : data.length = min (littleEndian (left.take 4)) 4096) :
    GivesDescriptor node kernel (.returned data) later

theorem sendsFeature (node : Node) (report : Bytes) (kernel : Kernel) :
    node.SendsFeature report kernel ((node.sendFeature report).run kernel).ending
      ((node.sendFeature report).run kernel).state := by
  by_cases hlong : Hid.maxRequestSize < report.length
  · have hends : (node.sendFeature report).Ends kernel
        (.failed (.invalid (FeatureRefusal.tooLong report.length).message)) kernel := by
      rw [sendFeature, if_pos hlong]
      exact ⟨rfl, rfl⟩
    rw [hends.1, hends.2]
    exact .tooLong hlong
  · have hfields := Hid.Request.decodes_setFeature (Nat.not_lt.1 hlong)
    obtain ⟨answer, later, hexchanged, hcontrol⟩ :=
      node.exists_exchanged kernel (Nat.le_of_eq hfields.size_eq)
    have hends : (node.sendFeature report).Ends kernel
        (node.featureEnding (.setFeature report.length) 0 (fun _ => report.length) answer) later := by
      rw [sendFeature, if_neg hlong]
      exact ends_feature hcontrol (fun _ => rfl) fun _ => rfl
    rw [hends.1, hends.2]
    exact .answered (Nat.not_lt.1 hlong) hfields hexchanged

theorem getsFeature (node : Node) (id : UInt8) (given : Bytes) (kernel : Kernel) :
    node.GetsFeature id given kernel ((node.getFeature id given).run kernel).ending
      ((node.getFeature id given).run kernel).state := by
  cases given with
  | nil =>
    have hends : (node.getFeature id []).Ends kernel
        (.failed (.invalid FeatureRefusal.noRoom.message)) kernel := ⟨rfl, rfl⟩
    rw [hends.1, hends.2]
    exact .noRoom rfl
  | cons first rest =>
    have hfields := Hid.Request.decodes_getFeature
      (Nat.min_le_right (first :: rest).length Hid.maxRequestSize)
    have hfits : (Hid.Request.getFeature (min (first :: rest).length Hid.maxRequestSize)).size ≤
        (id :: rest).length := by
      rw [hfields.size_eq]
      exact Nat.min_le_left ..
    obtain ⟨answer, later, hexchanged, hcontrol⟩ := node.exists_exchanged kernel hfits
    have hends : (node.getFeature id (first :: rest)).Ends kernel
        (node.featureEnding (.getFeature (min (first :: rest).length Hid.maxRequestSize))
          (0, id :: rest) (fun reply => reply) answer) later :=
      ends_feature hcontrol (fun _ => rfl) fun _ => rfl
    rw [hends.1, hends.2]
    exact .answered hfields rfl rfl rfl hexchanged

theorem clampSize_eq (word : Bytes) : (clampSize word : Int) = max 0 (min (signedWord word) 4096) := by
  have hlt : littleEndian (word.take 4) < 2 ^ 32 := by
    calc littleEndian (word.take 4)
      _ < 256 ^ (word.take 4).length := littleEndian_lt _
      _ ≤ 256 ^ 4 := Nat.pow_le_pow_right (by decide) (List.length_take_le 4 word)
      _ = 2 ^ 32 := by decide
  unfold clampSize signedWord
  generalize littleEndian (word.take 4) = size at hlt
  by_cases hsign : size < 0x80000000
  · have hsame : (size : Int).bmod (2 ^ 32) = size := Int.bmod_eq_of_le (by omega) (by omega)
    rw [if_pos hsign, hsame]
    dsimp only [Hid.maxDescriptorSize]
    omega
  · have hnegative : (size : Int).bmod (2 ^ 32) = size - 2 ^ 32 := by
      rw [Int.bmod_def]
      omega
    rw [if_neg hsign, hnegative]
    omega

theorem prepared_clampSize (word : Bytes) : Prepared (signedWord word)
    (wordBytes (clampSize word) ++ List.replicate Hid.maxDescriptorSize 0) := by
  have hclamp := clampSize_eq word
  constructor
  · rw [List.length_append, length_wordBytes, List.length_replicate]
    rfl
  · rw [List.take_left' (length_wordBytes _), littleEndian_wordBytes (by omega), hclamp]

theorem givesDescriptor (node : Node) (kernel : Kernel) :
    node.GivesDescriptor kernel (node.reportDescriptor.run kernel).ending
      (node.reportDescriptor.run kernel).state := by
  have hfits : Hid.Request.descriptorSize.size ≤ ([0, 0, 0, 0] : Bytes).length := by decide
  obtain ⟨answer, middle, hsize, hcontrol⟩ := node.exists_exchanged kernel hfits
  cases answer with
  | error errno =>
    have hends : node.reportDescriptor.Ends kernel
        (.failed (node.controlFailure .descriptorSize errno)) middle := hcontrol.bind ⟨rfl, rfl⟩
    rw [hends.1, hends.2]
    exact .noSize hsize
  | ok reply =>
    obtain ⟨value, word⟩ := reply
    have hprepared := prepared_clampSize word
    obtain ⟨answer, later, hbytes, hagain⟩ := node.exists_exchanged middle
      (Nat.le_of_eq (Hid.Request.decodes_descriptor.size_eq.trans hprepared.length.symm))
    cases answer with
    | error errno =>
      have hends : node.reportDescriptor.Ends kernel
          (.failed (node.controlFailure .descriptor errno)) later :=
        hcontrol.bind (hagain.bind ⟨rfl, rfl⟩)
      rw [hends.1, hends.2]
      exact .noBytes hsize hprepared hbytes
    | ok reply =>
      obtain ⟨value', left⟩ := reply
      have hends : node.reportDescriptor.Ends kernel (.returned ((left.drop 4).take
          (min (littleEndian (left.take 4)) Hid.maxDescriptorSize))) later :=
        hcontrol.bind (hagain.bind ⟨rfl, rfl⟩)
      rw [hends.1, hends.2]
      refine .given hsize hprepared hbytes (List.take_prefix ..) ?_
      have hleft : left.length = 4 + 4096 := (hbytes.stores value' left rfl).1.trans hprepared.length
      rw [List.length_take, List.length_drop, hleft]
      dsimp only [Hid.maxDescriptorSize]
      omega

/-- Whatever the lengths of reports and buffers and whatever the kernel answers, however often it cuts a
request short: the number of each request that is made names a size within its buffer, and the kernel
stores nothing elsewhere. A feature report goes in a request of its own length, if that fits the field for
it, and comes in one of the length of the buffer, or of the largest that fits. The report descriptor is
asked for with a size within its structure, and what is returned of it is there. -/
theorem requests_in_bounds (node : Node) (kernel : Kernel) :
    (∀ report, node.SendsFeature report kernel ((node.sendFeature report).run kernel).ending
      ((node.sendFeature report).run kernel).state) ∧
    (∀ id given, node.GetsFeature id given kernel ((node.getFeature id given).run kernel).ending
      ((node.getFeature id given).run kernel).state) ∧
    Hid.Request.descriptorSize.Decodes 2 4 0x48 1 ∧ Hid.Request.descriptor.Decodes 2 4100 0x48 2 ∧
    node.GivesDescriptor kernel (node.reportDescriptor.run kernel).ending
      (node.reportDescriptor.run kernel).state :=
  ⟨fun report => node.sendsFeature report kernel, fun id given => node.getsFeature id given kernel,
    Hid.Request.decodes_descriptorSize, Hid.Request.decodes_descriptor, node.givesDescriptor kernel⟩

end Node

end Hotplug
