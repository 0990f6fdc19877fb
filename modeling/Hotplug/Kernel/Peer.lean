import Hotplug.Kernel.Basic
/-!
# The other end of a stream

What whoever holds the other end of a stream does with it.

## Main definitions

* `Hotplug.Stream.pair`: a descriptor that is one end of a new stream.
* `Hotplug.Stream.peerWrite`, `Hotplug.Stream.peerRead`, `Hotplug.Stream.peerClose`
-/

namespace Hotplug

namespace Stream

/-- The other end sends bytes; how many found room, if any did. A closed end sends nothing. -/
def peerWrite (stream : Stream) (data : Bytes) : Option Nat × Stream :=
  if stream.peerOpen then
    let (inbox, left) := stream.inbox.send data
    let taken := data.length - left.length
    (if taken = 0 ∧ data ≠ [] then none else some taken, { stream with inbox })
  else (none, stream)

/-- The other end reads at most so many of the bytes that wait for it. A closed end reads nothing. -/
def peerRead (stream : Stream) (length : Nat) : Bytes × Stream :=
  if stream.peerOpen then
    let (data, outbox) := stream.outbox.receive length
    (data, { stream with outbox })
  else ([], stream)

/-- The other end closes. Bytes that it did not read make this known at the next read. -/
def peerClose (stream : Stream) : Stream :=
  if stream.peerOpen then
    { stream with peerOpen := false, reset := !stream.outbox.isEmpty, outbox := {} }
  else stream

end Stream

namespace Kernel

/-- Opens one end of a new stream. -/
def openStream : Action Kernel Nat :=
  Action.modifyGet (·.install (.stream {}))

/-- The other end of the stream behind a descriptor does something. -/
def withPeer (fd : Nat) (step : Stream → α × Stream) : Action Kernel (Option α) :=
  Action.modifyGet fun kernel =>
    match kernel.endpoint? fd with
    | some (.stream stream) =>
      let (a, stream) := step stream
      (some a, kernel.setEndpoint fd (.stream stream))
    | _ => (none, kernel)

end Kernel

end Hotplug
