import Hotplug.Backend.Sample
import Hotplug.Config.Load
import Hotplug.FileTree.Edit
import Hotplug.Kernel.Peer
import Hotplug.Rig.Session
import Hotplug.Session.Basic
import Hotplug.Wait.Script
import Hotplug.Proofs.Simulation
import Hotplug.Proofs.Wait.Inquiry
import Hotplug.Proofs.Hoare
import Hotplug.Proofs.Wait.LevelTriggered
import Hotplug.Proofs.Hub.Records
import Hotplug.Proofs.Hub.Registry
import Hotplug.Proofs.Hub.Steps
import Hotplug.Proofs.Hub.Sound
import Hotplug.Proofs.Hub.Scene
import Hotplug.Proofs.Hub.Replay
import Hotplug.Proofs.Hub.Holding
import Hotplug.Proofs.Backend.Memory
import Hotplug.Proofs.Hub.Convergence
import Hotplug.Proofs.Hub.Ascending
import Hotplug.Proofs.Hub.Evolution
import Hotplug.Proofs.Hub.Tending
import Hotplug.Proofs.Hub.LifeCycle
import Hotplug.Proofs.Rig.References
import Hotplug.Proofs.Report.Candid
import Hotplug.Proofs.Report.Waiting
import Hotplug.Proofs.Report.Kernel
import Hotplug.Proofs.Report.Platforms
import Hotplug.Proofs.Report.Hub
import Hotplug.Proofs.Report.Calls
import Hotplug.Proofs.Report.Masking
import Hotplug.Proofs.Uevent.Decoding
import Hotplug.Proofs.FileTree.Walking
import Hotplug.Proofs.Sysfs.Identity
import Hotplug.Proofs.Backend.Traffic
import Hotplug.Proofs.Backend.Failing
import Hotplug.Proofs.Hub.Failing
import Hotplug.Proofs.Rig.Tableau
import Hotplug.Proofs.Rig.Failing
import Hotplug.Proofs.Wait.Entries
import Hotplug.Proofs.Session.Editing
import Hotplug.Proofs.Wait.Expiry
import Hotplug.Proofs.Wait.Supply
import Hotplug.Proofs.Wait.Rounds
import Hotplug.Proofs.Backend.Descriptors
import Hotplug.Proofs.Backend.Ledger
import Hotplug.Proofs.Rig.Signals
import Hotplug.Proofs.Rig.Awaiting
import Hotplug.Proofs.Hid.Items
import Hotplug.Proofs.Hid.Framing
import Hotplug.Proofs.Wait.Bounds
import Hotplug.Proofs.Session.Polling
import Hotplug.Proofs.Hub.Batches
import Hotplug.Proofs.Uevent.Verdict
import Hotplug.Proofs.Uevent.Draining
import Hotplug.Proofs.FileTree.Reordering
import Hotplug.Proofs.Sysfs.Listing
import Hotplug.Proofs.Sysfs.Confinement
import Hotplug.Proofs.Hub.Transfers
import Hotplug.Proofs.Serial.Choices
import Hotplug.Proofs.Serial.Configuring
import Hotplug.Proofs.Node.Scripted
import Hotplug.Proofs.Node.Reading
import Hotplug.Proofs.Node.Writing
import Hotplug.Proofs.Node.Requests
import Hotplug.Proofs.Datum.RoundTrips
import Hotplug.Proofs.Toml.Shape
import Hotplug.Proofs.Config.Reading
import Hotplug.Proofs.Report.Commands
import Hotplug.Proofs.Report.Holdings
import Hotplug.Proofs.Serial.Legality
import Hotplug.Proofs.Backend.Dealings
import Hotplug.Proofs.Backend.Planned
import Hotplug.Proofs.Backend.Passages
import Hotplug.Proofs.Backend.Streams
import Hotplug.Proofs.Wait.Remaining
import Hotplug.Proofs.Sysfs.Location
