/-!
# Paths

Paths as text, and the names they are made of.

## Main definitions

* `Hotplug.Path.isAbsolute`, `Hotplug.Path.names`
* `Hotplug.Path.join`: a path below another one.
* `Hotplug.Path.agree`: whether two texts spell one path.
-/

namespace Hotplug.Path

/-- Whether a path starts at the root of all files. -/
def isAbsolute (path : String) : Bool :=
  path.toList.head? == some '/'

/-- The names between slashes; empty ones count for nothing. -/
def split (path : List Char) : List String :=
  ((path.splitOn '/').filter (!·.isEmpty)).map String.ofList

/-- The names of a path, in order. A slash at the end asks for a directory, as a last name `.`
does. -/
def names (path : String) : List String :=
  let chars := path.toList
  split chars ++ if chars.getLast? == some '/' then ["."] else []

/-- The path `name` as seen from `base`. An absolute path stays as it is. -/
def join (base name : String) : String :=
  if isAbsolute name || base.isEmpty then name
  else if base.toList.getLast? == some '/' then base ++ name
  else base ++ "/" ++ name

/-- A path without the slashes at its start. -/
def relative (path : String) : String :=
  String.ofList (path.toList.dropWhile (· == '/'))

/-- The steps that a path takes. Neither a slash too many nor a name `.` is a step, unless a relative
path begins with that name. -/
def steps (path : String) : List String :=
  let names := split path.toList
  let moving := names.filter (· ≠ ".")
  if isAbsolute path then "/" :: moving
  else if names.head? = some "." then "." :: moving
  else moving

/-- Whether two texts spell one path: they take the same steps. -/
def agree (a b : String) : Bool :=
  steps a == steps b

theorem agree_refl (path : String) : agree path path = true := by
  simp [agree]

end Hotplug.Path
