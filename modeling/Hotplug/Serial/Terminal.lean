import Hotplug.Serial.Line
/-!
# Terminal attributes

The words of flags in which the kernel keeps the state of a terminal line, and how a line coding is
written into them. Raw mode comes first; then every bit that belongs to the coding is cleared and
set again, so no trace of an earlier coding is left. All other bits stay as they are.

## Main definitions

* `Hotplug.Serial.Terminal`: the flag words.
* `Hotplug.Serial.Terminal.makeRaw`, `Hotplug.Serial.Terminal.setRate`
* `Hotplug.Serial.Terminal.configure`: writes a line coding.
-/

namespace Hotplug.Serial

/-- The attributes of a terminal line. -/
structure Terminal where
  /-- Input modes. -/
  input : UInt32 := 0
  /-- Output modes. -/
  output : UInt32 := 0
  /-- Control modes, with the rate among them. -/
  control : UInt32 := 0
  localModes : UInt32 := 0
  /-- How many bytes a read waits for. -/
  minBytes : UInt8 := 0
  /-- How long a read waits between bytes, in tenths of a second. -/
  waitTime : UInt8 := 0
  deriving DecidableEq, Repr, Inhabited

namespace Terminal

/-! ### Bits of the words -/

/-- Input bits that raw mode clears: breaks, parity marks, stripping, line ends and output flow. -/
def cookedInput : UInt32 := 0o2753
/-- Output bits that raw mode clears: processing, and fill characters in place of delays. -/
def cookedOutput : UInt32 := 0x41
/-- Local bits that raw mode clears: echo, line editing, signals and extensions. -/
def cookedLocal : UInt32 := 0o100113
/-- The field of the character size. -/
def sizeField : UInt32 := 0x30
/-- Two stop bits. -/
def twoStopBits : UInt32 := 0x40
/-- The receiver is on. -/
def receiver : UInt32 := 0x80
/-- A parity bit is there. -/
def parityEnable : UInt32 := 0x100
/-- The parity bit is odd. -/
def parityOdd : UInt32 := 0x200
/-- The modem lines drop on close. -/
def hangup : UInt32 := 0x400
/-- The modem lines are ignored. -/
def ignoreModem : UInt32 := 0x800
/-- Flow control by the RTS and CTS lines. -/
def hardwareFlow : UInt32 := 0x80000000
/-- The field of the rate. -/
def rateField : UInt32 := 0x100f
/-- Output may be held back by a character. -/
def outputFlow : UInt32 := 0x400
/-- Input is held back by a character. -/
def inputFlow : UInt32 := 0x1000

/-- The code of a rate in the rate field. -/
def rateCode : Rate → UInt32
  | .b110 => 3
  | .b134 => 4
  | .b150 => 5
  | .b200 => 6
  | .b300 => 7
  | .b600 => 8
  | .b1200 => 9
  | .b1800 => 10
  | .b2400 => 11
  | .b4800 => 12
  | .b9600 => 13
  | .b19200 => 14
  | .b38400 => 15
  | .b57600 => 0x1001
  | .b115200 => 0x1002

/-- The code of a character size in the size field; anything but five to seven bits is eight. -/
def sizeCode (dataBits : UInt8) : UInt32 :=
  if dataBits = 5 then 0 else if dataBits = 6 then 0x10 else if dataBits = 7 then 0x20 else 0x30

/-- The control bits of a parity mode. -/
def parityBits : Parity → UInt32
  | .none => 0
  | .odd => parityEnable ||| parityOdd
  | .even => parityEnable

/-- The input bits of a flow control mode. -/
def flowInput : FlowControl → UInt32
  | .xonXoff => outputFlow ||| inputFlow
  | _ => 0

/-- The control bits of a flow control mode. -/
def flowControlBits : FlowControl → UInt32
  | .rtsCts => hardwareFlow
  | _ => 0

/-- The bits of a word if a condition holds. -/
def bitsIf (condition : Bool) (bits : UInt32) : UInt32 :=
  if condition then bits else 0

/-- Raw mode: bytes pass unchanged, one at a time. -/
def makeRaw (t : Terminal) : Terminal where
  input := t.input &&& ~~~cookedInput
  output := t.output &&& ~~~cookedOutput
  control := t.control &&& ~~~(sizeField ||| parityEnable) ||| sizeField
  localModes := t.localModes &&& ~~~cookedLocal
  minBytes := 1
  waitTime := 0

/-- Sets the rate in both directions. -/
def setRate (t : Terminal) (rate : Rate) : Terminal :=
  { t with control := t.control &&& ~~~rateField ||| rateCode rate }

/-- The code in the rate field. -/
def rate (t : Terminal) : UInt32 :=
  t.control &&& rateField

/-- Every control bit, the rate apart, that a line coding decides. -/
def codingField : UInt32 :=
  sizeField ||| parityEnable ||| parityOdd ||| twoStopBits ||| hardwareFlow ||| hangup

/-- Puts the line into raw mode with the given coding. -/
def configure (t : Terminal) (settings : Settings) : Terminal :=
  let raw := t.makeRaw.setRate settings.rate
  { raw with
    control := raw.control &&& ~~~codingField ||| ignoreModem ||| receiver |||
      sizeCode settings.dataBits ||| parityBits settings.parity |||
      bitsIf (settings.stopBits == 2) twoStopBits ||| bitsIf settings.hangupOnClose hangup |||
      flowControlBits settings.flowControl
    input := raw.input &&& ~~~(outputFlow ||| inputFlow) ||| flowInput settings.flowControl }

end Terminal

end Hotplug.Serial
