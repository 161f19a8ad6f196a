/-!
# Paths

A path is a text: names with slashes between them, and a slash before them if it starts at the
root.

* `join_of_isAbsolute`: what starts at the root does not depend on where it is looked up.
-/

namespace LuaSession.Storage

/-- Whether a path starts at the root. -/
def isAbsolute (path : String) : Bool :=
  path.toList.head? == some '/'

/-- A path looked up from another. -/
def join (base path : String) : String :=
  if isAbsolute path || base.isEmpty then path
  else if base.toList.getLast? == some '/' then base ++ path
  else base ++ "/" ++ path

theorem join_of_isAbsolute {base path : String} (h : isAbsolute path = true) :
    join base path = path := by
  simp [join, h]

/-- The names of a path. A slash at the end counts as a dot after it. -/
def names (path : String) : List String :=
  let parts := (path.toList.splitOn '/').map String.ofList
  let parts := if 1 < parts.length && parts.getLast? == some "" then parts.dropLast ++ ["."] else parts
  parts.filter (· != "")

end LuaSession.Storage
