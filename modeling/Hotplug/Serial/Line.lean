import Hotplug.Failure
import Hotplug.Text.Number
/-!
# Serial line coding

How a serial line is driven: its rate, the shape of a character, flow control and what happens on
close. Callers ask for a coding with a rate and a word of flags; the flags fall into groups of which
each admits one choice.

## Main definitions

* `Hotplug.Serial.Rate`: the supported rates.
* `Hotplug.Serial.Flag`, `Hotplug.Serial.Flags`, `Hotplug.Serial.Flags.check`
* `Hotplug.Serial.Settings`, `Hotplug.Serial.Settings.ofFlags`
-/

namespace Hotplug.Serial

/-- The supported rates, in bits per second. -/
inductive Rate
  | b110 | b134 | b150 | b200 | b300 | b600 | b1200 | b1800 | b2400 | b4800 | b9600 | b19200
  | b38400 | b57600 | b115200
  deriving DecidableEq, Repr, Inhabited

namespace Rate

/-- Every rate, slowest first. -/
def all : List Rate :=
  [b110, b134, b150, b200, b300, b600, b1200, b1800, b2400, b4800, b9600, b19200, b38400, b57600,
    b115200]

/-- Bits per second. -/
def bps : Rate → UInt32
  | b110 => 110
  | b134 => 134
  | b150 => 150
  | b200 => 200
  | b300 => 300
  | b600 => 600
  | b1200 => 1200
  | b1800 => 1800
  | b2400 => 2400
  | b4800 => 4800
  | b9600 => 9600
  | b19200 => 19200
  | b38400 => 38400
  | b57600 => 57600
  | b115200 => 115200

/-- The rate of so many bits per second. -/
def ofBps? (bps : UInt32) : Option Rate :=
  all.find? (·.bps == bps)

/-- The rate as text. -/
def text (rate : Rate) : String :=
  toString rate.bps

theorem mem_all (rate : Rate) : rate ∈ all := by
  cases rate <;> decide

theorem ofBps?_bps (rate : Rate) : ofBps? rate.bps = some rate := by
  cases rate <;> decide

end Rate

/-- One choice among the flags of a line coding. -/
inductive Flag
  | bits7 | bits6 | bits5 | odd | even | stop2 | xonXoff | rtsCts | noHangup
  deriving DecidableEq, Repr

namespace Flag

/-- The bit that stands for the choice. -/
def bit : Flag → UInt32
  | bits7 => 0x1
  | bits6 => 0x2
  | bits5 => 0x4
  | odd => 0x8
  | even => 0x10
  | stop2 => 0x20
  | xonXoff => 0x40
  | rtsCts => 0x80
  | noHangup => 0x100

end Flag

/-- Groups of flags that exclude each other. -/
inductive Group
  | characterSize | parity | stopBits | flowControl | close
  deriving DecidableEq, Repr

namespace Group

/-- Every group. -/
def all : List Group :=
  [characterSize, parity, stopBits, flowControl, close]

/-- The flags of a group. -/
def flags : Group → List Flag
  | characterSize => [.bits7, .bits6, .bits5]
  | parity => [.odd, .even]
  | stopBits => [.stop2]
  | flowControl => [.xonXoff, .rtsCts]
  | close => [.noHangup]

/-- The bits of a group. -/
def mask (group : Group) : UInt32 :=
  (group.flags.map Flag.bit).foldl (· ||| ·) 0

/-- What the group is called. -/
def name : Group → String
  | characterSize => "character size"
  | parity => "parity"
  | stopBits => "stop bits"
  | flowControl => "flow control"
  | close => "close"

/-- The groups with more than one flag, in the order in which they are checked. -/
def contested : List Group :=
  [characterSize, parity, flowControl]

end Group

/-- Why a line coding is refused. -/
inductive Refusal
  /-- The rate is not supported. -/
  | unsupportedRate (bps : UInt32)
  /-- There are bits that mean nothing. -/
  | unknownBits (bits : UInt32)
  /-- There is more than one choice in a group. -/
  | conflict (group : Group)
  deriving DecidableEq, Repr

namespace Refusal

/-- What to tell people. -/
def message : Refusal → String
  | unsupportedRate bps => "Unsupported serial rate " ++ toString bps
  | unknownBits bits => "Unknown serial flag bits " ++ Number.hexMarked bits.toNat
  | conflict group => "Conflicting serial " ++ group.name ++ " flags"

/-- A refused line coding is an invalid request. -/
def failure (refusal : Refusal) : Failure :=
  .invalid refusal.message

end Refusal

/-- A word of flags. -/
structure Flags where
  bits : UInt32
  deriving DecidableEq, Repr, Inhabited

namespace Flags

/-- No flags. -/
def empty : Flags :=
  ⟨0⟩

/-- Every bit that means something. -/
def known : UInt32 :=
  (Group.all.map Group.mask).foldl (· ||| ·) 0

/-- The flags of both words. -/
def union (a b : Flags) : Flags :=
  ⟨a.bits ||| b.bits⟩

instance : OrOp Flags := ⟨union⟩

/-- Whether every bit of `other` is set. -/
def includes (flags other : Flags) : Bool :=
  flags.bits &&& other.bits == other.bits

/-- Whether a choice is made. -/
def has (flags : Flags) (flag : Flag) : Bool :=
  flags.bits &&& flag.bit == flag.bit

/-- The choices made in a group. -/
def chosen (flags : Flags) (group : Group) : List Flag :=
  group.flags.filter flags.has

/-- The bits that mean nothing. -/
def unknown (flags : Flags) : UInt32 :=
  flags.bits &&& ~~~known

/-- Refuses words with unknown bits, then words with two choices in a group. -/
def check (flags : Flags) : Except Refusal Unit :=
  if flags.unknown ≠ 0 then .error (.unknownBits flags.unknown)
  else match Group.contested.find? fun group => 1 < (flags.chosen group).length with
    | some group => .error (.conflict group)
    | none => .ok ()

end Flags

/-- Whether a character carries a parity bit, and which. -/
inductive Parity
  | none | odd | even
  deriving DecidableEq, Repr, Inhabited

namespace Parity

/-- Every mode. -/
def all : List Parity :=
  [none, odd, even]

/-- The name of the mode. -/
def name : Parity → String
  | none => "none"
  | odd => "odd"
  | even => "even"

/-- The mode with a given name. -/
def ofName? (text : String) : Option Parity :=
  all.find? (·.name == text)

/-- The letter of the mode in the short form of a line coding. -/
def letter : Parity → String
  | none => "N"
  | odd => "O"
  | even => "E"

theorem ofName?_name (parity : Parity) : ofName? parity.name = some parity := by
  cases parity <;> decide

end Parity

/-- Who may hold the other side back, and how. -/
inductive FlowControl
  | none | xonXoff | rtsCts
  deriving DecidableEq, Repr, Inhabited

namespace FlowControl

/-- Every mode. -/
def all : List FlowControl :=
  [none, xonXoff, rtsCts]

/-- The name of the mode. -/
def name : FlowControl → String
  | none => "none"
  | xonXoff => "xon_xoff"
  | rtsCts => "rts_cts"

/-- The mode with a given name. -/
def ofName? (text : String) : Option FlowControl :=
  all.find? (·.name == text)

theorem ofName?_name (mode : FlowControl) : ofName? mode.name = some mode := by
  cases mode <;> decide

end FlowControl

/-- A line coding. -/
structure Settings where
  rate : Rate := .b115200
  /-- The data bits of a character. -/
  dataBits : UInt8 := 8
  /-- The parity bit of a character. -/
  parity : Parity := .none
  /-- The stop bits of a character. -/
  stopBits : UInt8 := 1
  flowControl : FlowControl := .none
  /-- Whether the modem lines drop on close. -/
  hangupOnClose : Bool := true
  deriving DecidableEq, Repr, Inhabited

namespace Settings

/-- The coding that a port has unless told otherwise. -/
def standard : Settings :=
  {}

/-- The coding that flags without a conflict choose. -/
def choose (rate : Rate) (flags : Flags) : Settings where
  rate := rate
  dataBits :=
    if flags.has .bits7 then 7 else if flags.has .bits6 then 6 else if flags.has .bits5 then 5 else 8
  parity := if flags.has .odd then .odd else if flags.has .even then .even else .none
  stopBits := if flags.has .stop2 then 2 else 1
  flowControl := if flags.has .xonXoff then .xonXoff else if flags.has .rtsCts then .rtsCts else .none
  hangupOnClose := !flags.has .noHangup

/-- The coding that a rate and a word of flags ask for. The rate is checked first. -/
def ofFlags (bps : UInt32) (flags : Flags) : Except Refusal Settings :=
  match Rate.ofBps? bps with
  | none => .error (.unsupportedRate bps)
  | some rate => flags.check.map fun _ => choose rate flags

/-- The short form: rate, data bits, parity, stop bits. -/
def text (settings : Settings) : String :=
  settings.rate.text ++ " " ++ toString settings.dataBits ++ settings.parity.letter ++
    toString settings.stopBits

end Settings

end Hotplug.Serial
