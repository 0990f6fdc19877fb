import Hotplug.Bytes
/-!
# Bytes as text

## Main definitions

* `Hotplug.Text.ofUtf8?`: the text of some bytes, if they are UTF-8.
* `Hotplug.Text.utf8`: the bytes of a text.
-/

namespace Hotplug.Text

/-- The text that bytes encode, if they are UTF-8. -/
def ofUtf8? (bytes : Bytes) : Option String :=
  String.fromUTF8? ⟨bytes.toArray⟩

/-- The UTF-8 bytes of a text. -/
def utf8 (text : String) : Bytes :=
  text.toUTF8.toList

/-- Cuts a text at the first occurrence of a character, which belongs to neither part. -/
def cutAt? (mark : Char) (text : List Char) : Option (List Char × List Char) :=
  match text.dropWhile (· ≠ mark) with
  | [] => none
  | _ :: after => some (text.takeWhile (· ≠ mark), after)

end Hotplug.Text
