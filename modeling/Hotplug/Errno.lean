import Hotplug.Errno.Words
import Hotplug.Failure
/-!
# Error numbers of the operating system

System calls fail with a number. This module names the numbers that matter here, gives every number
its text, and says which kind of failure each one is.

## Main definitions

* `Hotplug.Errno`, `Hotplug.Errno.text`
* `Hotplug.SystemError`: a failed call on the system, by number or by kind alone.
* `Hotplug.Failure.ofErrno`, `Hotplug.Failure.ofSystemError`
-/

namespace Hotplug

/-- The number a system call fails with. -/
structure Errno where
  number : Int
  deriving DecidableEq, Repr, Inhabited

namespace Errno

/-- Operation not permitted. -/
def perm : Errno := ⟨1⟩
/-- No such file or directory. -/
def noEntry : Errno := ⟨2⟩
/-- A signal arrived during the call. -/
def interrupted : Errno := ⟨4⟩
/-- Input/output error. -/
def ioError : Errno := ⟨5⟩
/-- The device behind a node is gone. -/
def noSuchDevice : Errno := ⟨6⟩
/-- The descriptor is not open. -/
def badDescriptor : Errno := ⟨9⟩
/-- The call would have to wait. -/
def again : Errno := ⟨11⟩
/-- Memory ran out. -/
def noMemory : Errno := ⟨12⟩
/-- Permission denied. -/
def accessDenied : Errno := ⟨13⟩
/-- The file is already there. -/
def alreadyExists : Errno := ⟨17⟩
/-- There is no such device. -/
def noDevice : Errno := ⟨19⟩
/-- A component of a path is not a directory. -/
def notDirectory : Errno := ⟨20⟩
/-- The file is a directory. -/
def isDirectory : Errno := ⟨21⟩
/-- The descriptor does not understand the request. -/
def notTerminal : Errno := ⟨25⟩
/-- Nobody reads the other end. -/
def brokenPipe : Errno := ⟨32⟩
/-- A name is too long. -/
def nameTooLong : Errno := ⟨36⟩
/-- Too many symbolic links. -/
def linkLoop : Errno := ⟨40⟩
/-- The other end was closed with unread bytes. -/
def connectionReset : Errno := ⟨104⟩
/-- A receive buffer overran. -/
def noBuffers : Errno := ⟨105⟩

/-- What a list of words calls the error, if it has words for it. -/
def wordsIn? (errno : Errno) (words : List (Nat × String)) : Option String :=
  if errno.number < 0 then none else words.lookup errno.number.toNat

/-- What the system calls the error. -/
def description (errno : Errno) : String :=
  (errno.wordsIn? systemWords).getD ("Unknown error " ++ toString errno.number)

/-- The description with the number behind it. -/
def text (errno : Errno) : String :=
  errno.description ++ " (os error " ++ toString errno.number ++ ")"

/-- Whether the system defines the number. -/
def isDefined (errno : Errno) : Bool :=
  1 ≤ errno.number && errno.number ≤ 133 && errno.number ≠ 41 && errno.number ≠ 58

/-- The number, or zero if the system does not define it. -/
def defined (errno : Errno) : Errno :=
  if errno.isDefined then errno else ⟨0⟩

/-- The kind of failure a number stands for. -/
def code (errno : Errno) : Code :=
  if errno = noMemory then .memory
  else if errno = accessDenied ∨ errno = perm then .access
  else if errno = noEntry ∨ errno = noDevice ∨ errno = noSuchDevice then .notFound
  else if errno = ioError then .io
  else .system

/-- Whether the number says that the device behind an open node no longer answers. -/
def isTransferError (errno : Errno) : Bool :=
  errno = ioError ∨ errno = noSuchDevice

end Errno

/-- Kinds of failed calls that carry no number. -/
inductive ErrorKind
  | notFound | permissionDenied | outOfMemory | invalidData | timedOut | wouldBlock | interrupted
  | alreadyExists | other
  deriving DecidableEq, Repr

/-- Why a call on the system failed. -/
inductive SystemError
  /-- The call failed with a number. -/
  | number (errno : Errno)
  /-- The failure has a kind and a text of its own. -/
  | kind (kind : ErrorKind) (text : String)
  deriving DecidableEq, Repr

/-- What to tell people about a failed call. -/
def SystemError.text : SystemError → String
  | .number errno => errno.text
  | .kind _ text => text

namespace Failure

/-- The failure of an operation whose system call failed with a number; `context` says what was
being done. -/
def ofErrno (context : String) (errno : Errno) : Failure :=
  match errno.code with
  | .memory => memory
  | .access => access ("Permission denied for " ++ context)
  | .notFound => notFound (context ++ " failed: device not found")
  | .io => io ("I/O error during " ++ context)
  | _ => system (context ++ " failed: " ++ errno.text)

/-- The failure of an operation whose call on the system failed. -/
def ofSystemError (context : String) : SystemError → Failure
  | .number errno => ofErrno context errno
  | .kind .notFound text => notFound (context ++ ": " ++ text)
  | .kind .permissionDenied text => access (context ++ ": " ++ text)
  | .kind .outOfMemory _ => memory
  | .kind _ text => system (context ++ " failed: " ++ text)

end Failure

end Hotplug
