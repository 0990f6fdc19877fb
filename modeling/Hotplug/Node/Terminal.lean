import Hotplug.Node.Basic
/-!
# Terminal nodes

A serial port is configured by changing the attributes of its terminal.

## Main definitions

* `Hotplug.Node.configure`
-/

namespace Hotplug

/-- What the terminal layer calls an error. -/
def Errno.terminalText (errno : Errno) : String :=
  if errno.isDefined then (errno.wordsIn? terminalWords).getD errno.description else "Unknown errno"

namespace Node

/-- The failure of a call on the terminal. -/
def terminalFailure (node : Node) (call : String) (errno : Errno) : Failure :=
  if errno.isTransferError then .io ("I/O error while configuring '" ++ node.path ++ "'")
  else .system (call ++ "('" ++ node.path ++ "') failed: " ++ errno.terminalText)

/-- Gives a serial line its coding. -/
def configure (node : Node) (settings : Serial.Settings) : Action Kernel Unit := do
  match ← Kernel.getTerminal node.fd with
  | .error errno => Action.fail (node.terminalFailure "tcgetattr" errno)
  | .ok terminal =>
    match ← Kernel.setTerminal node.fd (terminal.configure settings) with
    | .error errno => Action.fail (node.terminalFailure "tcsetattr" errno)
    | .ok () => return ()

end Node

end Hotplug
