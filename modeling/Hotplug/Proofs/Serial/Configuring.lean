import Hotplug.Node.Terminal
import Hotplug.Proofs.Hoare
import Hotplug.Proofs.Node.Scripted
import Hotplug.Proofs.Serial.Choices
import Mathlib.Data.List.Pairwise
/-!
# Configured lines

Every step of a configuration overwrites a field of a word: it clears the field and sets some bits in it.
Steps that follow each other on one word come to a single one, which clears all the fields. So the words
that are left say exactly the coding, whatever was there before, and bits outside of all fields stay.

## Main definitions

* `Hotplug.Serial.overwrite`: a word with a field overwritten.
* `Hotplug.Serial.Layout`: fields of a word with the bits set in each.
* `Hotplug.Serial.Terminal.controlLayout`, `Hotplug.Serial.Terminal.inputLayout`: what a configuration
  sets.
* `Hotplug.Serial.Terminal.coding?`: the line coding that the words of a terminal say.
* `Hotplug.Serial.Terminal.IsRaw`, `Hotplug.Serial.Terminal.SameRest`

## Main statements

* `Hotplug.Serial.overwrite_overwrite`: two steps on a word come to one.
* `Hotplug.Serial.Layout.overwrite_and`: each field of a layout is read back.
* `Hotplug.Serial.Terminal.configure_eq`: a configuration as one step on each word.
* `Hotplug.Serial.Terminal.configure_faithful`
-/

namespace Hotplug

namespace Serial

/-! ### Fields of words -/

/-- Whether the bit at a place is set. -/
def bit (word : UInt32) (place : Nat) : Bool :=
  word.toBitVec.getLsbD place

@[simp] theorem bit_or (a b : UInt32) (place : Nat) : bit (a ||| b) place = (bit a place || bit b place) :=
  BitVec.getLsbD_or

@[simp] theorem bit_and (a b : UInt32) (place : Nat) :
    bit (a &&& b) place = (bit a place && bit b place) :=
  BitVec.getLsbD_and

@[simp] theorem bit_not (word : UInt32) (place : Nat) :
    bit (~~~word) place = (decide (place < 32) && !bit word place) :=
  BitVec.getLsbD_not

@[simp] theorem bit_zero (place : Nat) : bit 0 place = false :=
  BitVec.getLsbD_zero

theorem eq_of_bit {a b : UInt32} (h : ∀ place < 32, bit a place = bit b place) : a = b :=
  UInt32.eq_of_toBitVec_eq (BitVec.eq_of_getLsbD_eq h)

/-- The word with a field cleared, and bits set in it. -/
def overwrite (word field bits : UInt32) : UInt32 :=
  word &&& ~~~field ||| bits

@[simp] theorem bit_overwrite (word field bits : UInt32) (place : Nat) :
    bit (overwrite word field bits) place =
      (bit word place && (decide (place < 32) && !bit field place) || bit bits place) := by
  simp [overwrite]

theorem overwrite_overwrite (word field bits other more : UInt32) :
    overwrite (overwrite word field bits) other more =
      overwrite word (field ||| other) (bits &&& ~~~other ||| more) :=
  eq_of_bit fun place hplace => by
    simp only [bit_overwrite, bit_or, bit_and, bit_not]
    grind

/-- Bits that are set anyway may be cleared before. -/
theorem overwrite_or (word field bits more : UInt32) :
    overwrite word field (bits ||| more) = overwrite word (field ||| more) (bits ||| more) :=
  eq_of_bit fun place hplace => by
    simp only [bit_overwrite, bit_or]
    grind

/-- No bits but those of a field. -/
def Within (bits field : UInt32) : Prop :=
  bits &&& field = bits

instance (bits field : UInt32) : Decidable (Within bits field) :=
  inferInstanceAs (Decidable (bits &&& field = bits))

theorem Within.bit {bits field : UInt32} (h : Within bits field) {place : Nat}
    (hbit : bit bits place = true) : Serial.bit field place = true := by
  rw [← h, bit_and, Bool.and_eq_true] at hbit
  exact hbit.2

/-- Outside of the field the word stays. -/
theorem overwrite_and_not {word field bits : UInt32} (hbits : Within bits field) :
    overwrite word field bits &&& ~~~field = word &&& ~~~field :=
  eq_of_bit fun place hplace => by
    have hinside : bit bits place = true → bit field place = true := hbits.bit
    simp only [bit_overwrite, bit_and, bit_not]
    grind

/-- In the field stands what was set. -/
theorem overwrite_and_self {word field bits : UInt32} (hbits : Within bits field) :
    overwrite word field bits &&& field = bits :=
  eq_of_bit fun place hplace => by
    have hinside : bit bits place = true → bit field place = true := hbits.bit
    simp only [bit_overwrite, bit_and]
    grind

/-- Of two steps on one field the second counts. -/
theorem overwrite_again {word field bits more : UInt32} (hbits : Within bits field) :
    overwrite (overwrite word field bits) field more = overwrite word field more :=
  eq_of_bit fun place hplace => by
    have hinside : bit bits place = true → bit field place = true := hbits.bit
    simp only [bit_overwrite]
    grind

/-! ### Layouts -/

/-- Fields of a word, with the bits that are set in each. -/
abbrev Layout := List (UInt32 × UInt32)

namespace Layout

/-- All fields. -/
def fields (layout : Layout) : UInt32 :=
  layout.foldr (fun part word => part.1 ||| word) 0

/-- All bits that are set. -/
def bits (layout : Layout) : UInt32 :=
  layout.foldr (fun part word => part.2 ||| word) 0

/-- No field has bits of another, and each is given its own bits only. -/
structure Separate (layout : Layout) : Prop where
  disjoint : (layout.map Prod.fst).Pairwise fun field other => field &&& other = 0
  within : ∀ part ∈ layout, Within part.2 part.1

variable {layout : Layout} {part : UInt32 × UInt32} {place : Nat}

theorem bit_fields : bit layout.fields place = true ↔ ∃ part ∈ layout, bit part.1 place = true := by
  induction layout with
  | nil => simp [fields]
  | cons first rest ih => simp [fields, ← ih]

theorem bit_bits : bit layout.bits place = true ↔ ∃ part ∈ layout, bit part.2 place = true := by
  induction layout with
  | nil => simp [bits]
  | cons first rest ih => simp [bits, ← ih]

namespace Separate

variable (h : layout.Separate)
include h

/-- A place belongs to one field. -/
theorem eq_of_bit {other : UInt32 × UInt32} (hmem : part ∈ layout) (hother : other ∈ layout)
    (hbit : bit part.1 place = true) (hbitOther : bit other.1 place = true) : part = other := by
  by_cases heq : part = other
  · exact heq
  · have hsymm : Std.Symm fun a b : UInt32 × UInt32 => a.1 &&& b.1 = 0 :=
      ⟨fun a b hab => (UInt32.and_comm b.1 a.1).trans hab⟩
    have hdisjoint := (List.pairwise_map.1 h.disjoint).forall hmem hother heq
    have hboth : bit (part.1 &&& other.1) place = true := by rw [bit_and, hbit, hbitOther]; rfl
    rw [hdisjoint, bit_zero] at hboth
    cases hboth

theorem bits_within : Within layout.bits layout.fields :=
  Serial.eq_of_bit fun place _ => by
    rw [bit_and, Bool.and_eq_left_iff_imp, bit_bits, bit_fields]
    rintro ⟨part, hmem, hbit⟩
    exact ⟨part, hmem, (h.within part hmem).bit hbit⟩

/-- Each field is read back from a word in which all were overwritten. -/
theorem overwrite_and (hmem : part ∈ layout) (word : UInt32) :
    overwrite word layout.fields layout.bits &&& part.1 = part.2 :=
  Serial.eq_of_bit fun place _ => by
    rw [bit_and, Bool.eq_iff_iff, Bool.and_eq_true, bit_overwrite, Bool.or_eq_true, bit_bits]
    constructor
    · rintro ⟨hword | ⟨other, hother, hbit⟩, hfield⟩
      · have hcleared : bit layout.fields place = true := bit_fields.2 ⟨part, hmem, hfield⟩
        rw [hcleared, Bool.not_true, Bool.and_false, Bool.and_false] at hword
        cases hword
      · rwa [h.eq_of_bit hmem hother hfield ((h.within other hother).bit hbit)]
    · exact fun hbit => ⟨.inr ⟨part, hmem, hbit⟩, (h.within part hmem).bit hbit⟩

end Separate

end Layout

/-! ### Configurations as layouts -/

namespace Terminal

/-- What a configuration sets in the control modes. -/
def controlLayout (settings : Settings) : Layout :=
  [(rateField, rateCode settings.rate), (sizeField, sizeCode settings.dataBits),
    (parityEnable ||| parityOdd, parityBits settings.parity),
    (twoStopBits, bitsIf (settings.stopBits == 2) twoStopBits),
    (hangup, bitsIf settings.hangupOnClose hangup),
    (hardwareFlow, flowControlBits settings.flowControl), (ignoreModem, ignoreModem),
    (receiver, receiver)]

/-- What a configuration sets in the input modes. Holding output back by a character is for the coding
to decide. -/
def inputLayout (settings : Settings) : Layout :=
  [(cookedInput &&& ~~~outputFlow, 0), (outputFlow ||| inputFlow, flowInput settings.flowControl)]

/-- Every control bit that a configuration decides. -/
def decidedControl : UInt32 :=
  codingField ||| rateField ||| ignoreModem ||| receiver

/-- Every input bit that a configuration decides. -/
def decidedInput : UInt32 :=
  cookedInput ||| outputFlow ||| inputFlow

theorem within_bitsIf (condition : Bool) (field : UInt32) : Within (bitsIf condition field) field := by
  cases condition
  · exact UInt32.zero_and
  · exact UInt32.and_self

theorem separate_controlLayout (settings : Settings) : (controlLayout settings).Separate where
  disjoint := by
    change [rateField, sizeField, parityEnable ||| parityOdd, twoStopBits, hangup, hardwareFlow,
      ignoreModem, receiver].Pairwise fun field other => field &&& other = 0
    decide
  within := by
    have hrate : Within (rateCode settings.rate) rateField := by cases settings.rate <;> decide
    have hsize : Within (sizeCode settings.dataBits) sizeField := by
      unfold sizeCode
      split
      · decide
      split
      · decide
      split <;> decide
    have hparity : Within (parityBits settings.parity) (parityEnable ||| parityOdd) := by
      cases settings.parity <;> decide
    have hflow : Within (flowControlBits settings.flowControl) hardwareFlow := by
      cases settings.flowControl <;> decide
    simp only [controlLayout, List.forall_mem_cons]
    exact ⟨hrate, hsize, hparity, within_bitsIf _ _, within_bitsIf _ _, hflow, UInt32.and_self,
      UInt32.and_self, nofun⟩

theorem separate_inputLayout (settings : Settings) : (inputLayout settings).Separate where
  disjoint := by
    change [cookedInput &&& ~~~outputFlow, outputFlow ||| inputFlow].Pairwise
      fun field other => field &&& other = 0
    decide
  within := by
    have hflow : Within (flowInput settings.flowControl) (outputFlow ||| inputFlow) := by
      cases settings.flowControl <;> decide
    simp only [inputLayout, List.forall_mem_cons]
    exact ⟨UInt32.zero_and, hflow, nofun⟩

theorem configure_control (t : Terminal) (settings : Settings) :
    (t.configure settings).control =
      overwrite t.control decidedControl (controlLayout settings).bits := by
  let coding := sizeCode settings.dataBits ||| parityBits settings.parity |||
    bitsIf (settings.stopBits == 2) twoStopBits ||| bitsIf settings.hangupOnClose hangup |||
    flowControlBits settings.flowControl
  have hfields : sizeField ||| parityEnable ||| rateField ||| codingField = codingField ||| rateField := by
    decide
  have hrate : (sizeField &&& ~~~rateField ||| rateCode settings.rate) &&& ~~~codingField =
      rateCode settings.rate := by
    cases settings.rate <;> decide
  calc (t.configure settings).control
    _ = overwrite (overwrite (overwrite t.control (sizeField ||| parityEnable) sizeField) rateField
          (rateCode settings.rate)) codingField (coding ||| (ignoreModem ||| receiver)) := by
      simp only [configure, makeRaw, setRate, overwrite, coding]
      ac_rfl
    _ = overwrite t.control (codingField ||| rateField)
          (rateCode settings.rate ||| coding ||| (ignoreModem ||| receiver)) := by
      rw [overwrite_overwrite t.control, overwrite_overwrite, hfields, hrate,
        ← UInt32.or_assoc _ coding]
    _ = overwrite t.control (codingField ||| rateField ||| (ignoreModem ||| receiver))
          (rateCode settings.rate ||| coding ||| (ignoreModem ||| receiver)) :=
      overwrite_or _ _ _ _
    _ = overwrite t.control decidedControl (controlLayout settings).bits := by
      simp only [decidedControl, Layout.bits, controlLayout, List.foldr, coding, UInt32.or_zero]
      ac_rfl

theorem configure_input (t : Terminal) (settings : Settings) :
    (t.configure settings).input = overwrite t.input decidedInput (inputLayout settings).bits := by
  calc (t.configure settings).input
    _ = overwrite (overwrite t.input cookedInput 0) (outputFlow ||| inputFlow)
          (flowInput settings.flowControl) := by
      simp only [configure, makeRaw, setRate, overwrite, UInt32.or_zero]
    _ = overwrite t.input decidedInput (inputLayout settings).bits := by
      rw [overwrite_overwrite, decidedInput, UInt32.or_assoc]
      simp only [Layout.bits, inputLayout, List.foldr, UInt32.zero_and, UInt32.or_zero]

/-- A configuration overwrites the same fields of each word, whatever the coding. -/
theorem configure_eq (t : Terminal) (settings : Settings) :
    t.configure settings =
      { input := overwrite t.input decidedInput (inputLayout settings).bits
        output := overwrite t.output cookedOutput 0
        control := overwrite t.control decidedControl (controlLayout settings).bits
        localModes := overwrite t.localModes cookedLocal 0
        minBytes := 1
        waitTime := 0 } := by
  rw [← configure_control, ← configure_input]
  simp only [overwrite, UInt32.or_zero]
  rfl

theorem fields_controlLayout (settings : Settings) : (controlLayout settings).fields = decidedControl := by
  change rateField ||| (sizeField ||| (parityEnable ||| parityOdd ||| (twoStopBits ||| (hangup |||
    (hardwareFlow ||| (ignoreModem ||| (receiver ||| 0))))))) = decidedControl
  decide

theorem fields_inputLayout (settings : Settings) : (inputLayout settings).fields = decidedInput := by
  change cookedInput &&& ~~~outputFlow ||| (outputFlow ||| inputFlow ||| 0) = decidedInput
  decide

theorem within_controlLayout (settings : Settings) : Within (controlLayout settings).bits decidedControl :=
  fields_controlLayout settings ▸ (separate_controlLayout settings).bits_within

theorem within_inputLayout (settings : Settings) : Within (inputLayout settings).bits decidedInput :=
  fields_inputLayout settings ▸ (separate_inputLayout settings).bits_within

/-- Nothing is left of an earlier coding. -/
theorem configure_configure (t : Terminal) (earlier settings : Settings) :
    (t.configure earlier).configure settings = t.configure settings := by
  simp only [configure_eq, overwrite_again (within_inputLayout earlier),
    overwrite_again (within_controlLayout earlier), overwrite_again (UInt32.zero_and)]

/-! ### Reading a coding back -/

/-- The rate that a code stands for, in bits per second. -/
def bpsOfCode? (code : UInt32) : Option UInt32 :=
  [(3, 110), (4, 134), (5, 150), (6, 200), (7, 300), (8, 600), (9, 1200), (10, 1800), (11, 2400),
    (12, 4800), (13, 9600), (14, 19200), (15, 38400), (0x1001, 57600), (0x1002, 115200)].lookup code

/-- The data bits that a size field stands for. -/
def dataBitsOf (field : UInt32) : UInt8 :=
  (field >>> 4).toUInt8 + 5

/-- The parity mode that a parity field stands for. -/
def parityOf (field : UInt32) : Parity :=
  if field &&& parityEnable = 0 then .none else if field &&& parityOdd = 0 then .even else .odd

/-- The flow control mode that both kinds of bits for it stand for. -/
def flowControlOf? (characters lines : UInt32) : Option FlowControl :=
  if lines = 0 then
    if characters = 0 then some .none
    else if characters = outputFlow ||| inputFlow then some .xonXoff else none
  else if characters = 0 then some .rtsCts else none

/-- The line coding that the words of a terminal say, if they say one. -/
def coding? (t : Terminal) : Option Settings := do
  let rate ← (bpsOfCode? t.rate).bind Rate.ofBps?
  let flowControl ← flowControlOf? (t.input &&& (outputFlow ||| inputFlow)) (t.control &&& hardwareFlow)
  return {
    rate, flowControl
    dataBits := dataBitsOf (t.control &&& sizeField)
    parity := parityOf (t.control &&& (parityEnable ||| parityOdd))
    stopBits := if t.control &&& twoStopBits = 0 then 1 else 2
    hangupOnClose := t.control &&& hangup != 0 }

/-- Bytes pass unchanged, one at a time. Flow control by a character is for the coding to decide. -/
structure IsRaw (t : Terminal) : Prop where
  input : t.input &&& (cookedInput &&& ~~~outputFlow) = 0
  output : t.output &&& cookedOutput = 0
  localModes : t.localModes &&& cookedLocal = 0
  minBytes : t.minBytes = 1
  waitTime : t.waitTime = 0

/-- Every bit that no configuration decides is the same. -/
structure SameRest (t u : Terminal) : Prop where
  input : t.input &&& ~~~decidedInput = u.input &&& ~~~decidedInput
  output : t.output &&& ~~~cookedOutput = u.output &&& ~~~cookedOutput
  control : t.control &&& ~~~decidedControl = u.control &&& ~~~decidedControl
  localModes : t.localModes &&& ~~~cookedLocal = u.localModes &&& ~~~cookedLocal

/-- The terminal has the coding and passes bytes unchanged, its receiver is on, it ignores the modem
lines, and the rest of it is as in `start`. -/
structure Carries (t : Terminal) (settings : Settings) (start : Terminal) : Prop where
  coding : t.coding? = some settings
  isRaw : t.IsRaw
  receiver : t.control &&& Terminal.receiver = Terminal.receiver
  ignoreModem : t.control &&& Terminal.ignoreModem = Terminal.ignoreModem
  rest : t.SameRest start

variable {t : Terminal} {settings : Settings} {part : UInt32 × UInt32}

theorem control_and (hmem : part ∈ controlLayout settings) :
    (t.configure settings).control &&& part.1 = part.2 := by
  rw [configure_control, ← fields_controlLayout settings]
  exact (separate_controlLayout settings).overwrite_and hmem t.control

theorem input_and (hmem : part ∈ inputLayout settings) :
    (t.configure settings).input &&& part.1 = part.2 := by
  rw [configure_input, ← fields_inputLayout settings]
  exact (separate_inputLayout settings).overwrite_and hmem t.input

theorem ofBps?_bpsOfCode?_rateCode (rate : Rate) :
    (bpsOfCode? (rateCode rate)).bind Rate.ofBps? = some rate := by
  cases rate <;> decide

theorem dataBitsOf_sizeCode {dataBits : UInt8} (h : dataBits ∈ [5, 6, 7, 8]) :
    dataBitsOf (sizeCode dataBits) = dataBits := by
  simp only [List.mem_cons, List.not_mem_nil, or_false] at h
  rcases h with rfl | rfl | rfl | rfl <;> decide

theorem parityOf_parityBits (parity : Parity) : parityOf (parityBits parity) = parity := by
  cases parity <;> decide

theorem flowControlOf?_bits (mode : FlowControl) :
    flowControlOf? (flowInput mode) (flowControlBits mode) = some mode := by
  cases mode <;> decide

theorem coding?_configure (t : Terminal) (h : settings.Possible) :
    (t.configure settings).coding? = some settings := by
  have hcontrol : ∀ part ∈ controlLayout settings, (t.configure settings).control &&& part.1 = part.2 :=
    fun _ => control_and
  have hinput : ∀ part ∈ inputLayout settings, (t.configure settings).input &&& part.1 = part.2 :=
    fun _ => input_and
  simp only [controlLayout, inputLayout, List.forall_mem_cons] at hcontrol hinput
  obtain ⟨hrate, hsize, hparity, hstop, hhangup, hlines, -⟩ := hcontrol
  obtain ⟨-, hcharacters, -⟩ := hinput
  have hstopBits : (if bitsIf (settings.stopBits == 2) twoStopBits = 0 then 1 else 2) =
      settings.stopBits := by
    have hpossible := h.stopBits
    simp only [List.mem_cons, List.not_mem_nil, or_false] at hpossible
    rcases hpossible with heq | heq <;> rw [heq] <;> decide
  have hclose : (bitsIf settings.hangupOnClose hangup != 0) = settings.hangupOnClose := by
    cases settings.hangupOnClose <;> decide
  simp only [coding?, rate, hrate, hsize, hparity, hstop, hhangup, hlines, hcharacters,
    ofBps?_bpsOfCode?_rateCode, flowControlOf?_bits, dataBitsOf_sizeCode h.dataBits,
    parityOf_parityBits, hstopBits, hclose]
  rfl

theorem isRaw_configure (t : Terminal) (settings : Settings) : (t.configure settings).IsRaw where
  input := by
    have hpart : (cookedInput &&& ~~~outputFlow, 0) ∈ inputLayout settings := List.mem_cons_self ..
    exact input_and hpart
  output := by
    rw [configure_eq]
    exact overwrite_and_self UInt32.zero_and
  localModes := by
    rw [configure_eq]
    exact overwrite_and_self UInt32.zero_and
  minBytes := rfl
  waitTime := rfl

theorem sameRest_configure (t : Terminal) (settings : Settings) : (t.configure settings).SameRest t := by
  rw [configure_eq]
  exact ⟨overwrite_and_not (within_inputLayout settings), overwrite_and_not UInt32.zero_and,
    overwrite_and_not (within_controlLayout settings), overwrite_and_not UInt32.zero_and⟩

theorem carries_configure (start : Terminal) (h : settings.Possible) :
    (start.configure settings).Carries settings start where
  coding := coding?_configure start h
  isRaw := isRaw_configure start settings
  receiver := by
    have hpart : (Terminal.receiver, Terminal.receiver) ∈ controlLayout settings := by simp [controlLayout]
    exact control_and hpart
  ignoreModem := by
    have hpart : (Terminal.ignoreModem, Terminal.ignoreModem) ∈ controlLayout settings := by
      simp [controlLayout]
    exact control_and hpart
  rest := sameRest_configure start settings

/-- Codings come and go without a trace. -/
theorem foldl_configure (t : Terminal) (earlier : List Settings) (settings : Settings) :
    (earlier.foldl configure t).configure settings = t.configure settings := by
  induction earlier generalizing t with
  | nil => rfl
  | cons first rest ih => rw [List.foldl_cons, ih, configure_configure]

end Terminal

end Serial

namespace Node

open Serial

/-- The terminal is asked for its attributes once, and given them back once with the coding in them. -/
theorem ends_configure {node : Node} {kernel : Kernel} {start : Terminal}
    {terminals : List (Except Errno Terminal)} {answers : List (Except Errno Unit)}
    (hnode : kernel.endpoint? node.fd = some .scripted)
    (hterminals : kernel.script.terminals = .ok start :: terminals)
    (hsettings : kernel.script.settings = .ok () :: answers) (settings : Settings) :
    (node.configure settings).Ends kernel (.returned ())
      { kernel with
        script := { kernel.script with terminals, settings := answers }
        calls := kernel.calls ++ [.getTerminal, .setTerminal 0 (start.configure settings)] } := by
  have hget := Kernel.run_getTerminal_scripted hnode
  rw [hterminals] at hget
  refine .bind ⟨congrArg Outcome.ending hget, congrArg Outcome.state hget⟩ ?_
  dsimp only [nextAnswer]
  let asked : Kernel := { kernel with
    script := { kernel.script with terminals }
    calls := kernel.calls ++ [.getTerminal] }
  have hasked : asked.endpoint? node.fd = some .scripted := hnode
  have hset := Kernel.run_setTerminal_scripted hasked (start.configure settings)
  have hanswers : asked.script.settings = .ok () :: answers := hsettings
  rw [hanswers] at hset
  refine .bind ⟨congrArg Outcome.ending hset, congrArg Outcome.state hset⟩ ?_
  exact ⟨rfl, by rw [List.append_assoc]; rfl⟩

/-- A line that is given a coding which flags ask for has exactly this coding, whatever its attributes
were before; what belongs neither to raw mode nor to the coding stays. Codings that the line had before
leave no trace. A node does so if its terminal answers. -/
theorem configure_faithful {bps : UInt32} {flags : Flags} {settings : Settings}
    (h : Settings.ofFlags bps flags = .ok settings) (start : Terminal) (earlier : List Settings) :
    (start.configure settings).Carries settings start ∧
      (earlier.foldl Terminal.configure start).configure settings = start.configure settings ∧
      ∀ (node : Node) (kernel : Kernel) (terminals : List (Except Errno Terminal))
        (answers : List (Except Errno Unit)),
        kernel.endpoint? node.fd = some .scripted →
        kernel.script.terminals = .ok start :: terminals →
        kernel.script.settings = .ok () :: answers →
        (node.configure settings).Ends kernel (.returned ())
          { kernel with
            script := { kernel.script with terminals, settings := answers }
            calls := kernel.calls ++ [.getTerminal, .setTerminal 0 (start.configure settings)] } :=
  ⟨Terminal.carries_configure start (Settings.possible_of_ofFlags h),
    start.foldl_configure earlier settings,
    fun _ _ _ _ hnode hterminals hsettings => ends_configure hnode hterminals hsettings settings⟩

/-- A line with every bit set, which had odd parity and flow control by characters for a while. -/
theorem configure_faithful_noisy :
    let start : Terminal := ⟨0xFFFFFFFF, 0xFFFFFFFF, 0xFFFFFFFF, 0xFFFFFFFF, 255, 7⟩
    let earlier := [Settings.choose .b4800 ⟨0x48⟩, Settings.standard]
    let settings : Settings := ⟨.b9600, 7, .even, 2, .rtsCts, false⟩
    let node : Node := ⟨"/dev/ttyACM0", 3⟩
    let kernel : Kernel :=
      { endpoints := [(3, .scripted)], script := { terminals := [.ok start], settings := [.ok ()] } }
    Settings.ofFlags 9600 ⟨0x1B1⟩ = .ok settings ∧
      (start.configure settings).Carries settings start ∧
      (earlier.foldl Terminal.configure start).configure settings = start.configure settings ∧
      (node.configure settings).Ends kernel (.returned ())
        { endpoints := [(3, .scripted)]
          calls := [.getTerminal, .setTerminal 0 (start.configure settings)] } := by
  intro start earlier settings node kernel
  have h : Settings.ofFlags 9600 ⟨0x1B1⟩ = .ok settings := rfl
  obtain ⟨hcarries, hearlier, hnode⟩ := configure_faithful h start earlier
  exact ⟨h, hcarries, hearlier, hnode node kernel [] [] rfl rfl rfl⟩

end Node

end Hotplug
