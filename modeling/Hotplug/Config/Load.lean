import Hotplug.Config.Basic
import Hotplug.Toml.Document
/-!
# Configuration from text

A configuration is written in a document, which may be in a file.

## Main definitions

* `Hotplug.Config.ofText`, `Hotplug.Config.load`
-/

namespace Hotplug.Config

/-- The configuration that a text gives. -/
def ofText (text : String) : Except Refusal Config :=
  match Toml.document? text with
  | none => .error .unreadable
  | some document => ofDatum document

/-- The configuration that a file gives. -/
def load (tree : FileTree) (path : String) : Except Failure Config :=
  match tree.readText path with
  | .error error => .error (.ofSystemError ("read config '" ++ path ++ "'") error)
  | .ok text => (ofText text).mapError (·.failure)

end Hotplug.Config
