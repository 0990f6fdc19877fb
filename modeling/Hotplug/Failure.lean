/-!
# Failures

What an operation answers when it cannot do its work: a code that a program can act on and a message
for people.

## Main definitions

* `Hotplug.Code`: the six kinds of failure, with their names and general messages.
* `Hotplug.Failure`: a code with a message.
-/

namespace Hotplug

/-- The kind of a failure. -/
inductive Code
  /-- Memory ran out; the operation cannot be retried. -/
  | memory
  /-- The target vanished or never existed. -/
  | notFound
  /-- Permission was denied. -/
  | access
  /-- A transfer failed; it may be retried. -/
  | io
  /-- The platform failed in an unexpected way. -/
  | system
  /-- The caller asked for something that makes no sense. -/
  | invalid
  deriving DecidableEq, Repr, Inhabited

namespace Code

/-- Every code, in a fixed order. -/
def all : List Code :=
  [memory, notFound, access, io, system, invalid]

/-- The short stable name. -/
def name : Code → String
  | memory => "memory"
  | notFound => "not_found"
  | access => "access"
  | io => "io"
  | system => "system"
  | invalid => "invalid"

/-- The code with a given name. -/
def ofName? (text : String) : Option Code :=
  all.find? (·.name == text)

/-- The message of a failure that gives no detail. -/
def summary : Code → String
  | memory => "Memory error"
  | notFound => "Not found"
  | access => "Permission error"
  | io => "I/O error"
  | system => "System error"
  | invalid => "Invalid data error"

theorem mem_all (code : Code) : code ∈ all := by
  cases code <;> decide

theorem ofName?_name (code : Code) : ofName? code.name = some code := by
  cases code <;> decide

end Code

/-- A failed operation: what kind of failure it was, and what to tell people. -/
structure Failure where
  /-- The kind. -/
  code : Code
  message : String
  deriving DecidableEq, Repr, Inhabited

namespace Failure

/-- A failure that gives no detail. -/
def general (code : Code) : Failure :=
  ⟨code, code.summary⟩

/-- Memory ran out. -/
def memory : Failure :=
  general .memory

/-- The target is not there. -/
def notFound (message : String) : Failure :=
  ⟨.notFound, message⟩

/-- Permission was denied. -/
def access (message : String) : Failure :=
  ⟨.access, message⟩

/-- A transfer failed. -/
def io (message : String) : Failure :=
  ⟨.io, message⟩

/-- The platform failed. -/
def system (message : String) : Failure :=
  ⟨.system, message⟩

/-- The request makes no sense. -/
def invalid (message : String) : Failure :=
  ⟨.invalid, message⟩

/-- A failure of a given code. Running out of memory leaves no room for a message of its own. -/
def ofCode : Code → String → Failure
  | .memory, _ => memory
  | .notFound, message => notFound message
  | .access, message => access message
  | .io, message => io message
  | .system, message => system message
  | .invalid, message => invalid message

/-- Whether the target is gone. -/
def isNotFound (failure : Failure) : Bool :=
  failure.code == .notFound

end Failure

end Hotplug
