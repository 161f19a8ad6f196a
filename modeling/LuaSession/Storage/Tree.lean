import LuaSession.Storage.Path

/-!
# File trees

Directories and files as a value, with what can be asked of it and what goes wrong.
-/

namespace LuaSession.Storage

/-- What stands at a path. -/
inductive Entry
  | directory
  | file (content : ByteArray)

/-- Why something cannot be done at a path. -/
inductive StorageError
  | notFound | notDirectory | isDirectory | exists_
  deriving DecidableEq, Repr

/-- The wording of an error. -/
def StorageError.message : StorageError → String
  | .notFound => "No such file or directory (os error 2)"
  | .notDirectory => "Not a directory (os error 20)"
  | .isDirectory => "Is a directory (os error 21)"
  | .exists_ => "File exists (os error 17)"

/-- A tree: what stands at the paths from the root, as names, and the working directory. -/
structure Tree where
  entries : List (List String × Entry) := []
  working : List String := []

namespace Tree

/-- What stands at some names from the root. -/
def get? (t : Tree) (at_ : List String) : Option Entry :=
  match at_ with
  | [] => some .directory
  | at_ => t.entries.lookup at_

/-- Puts something at some names from the root. -/
def set (t : Tree) (at_ : List String) (e : Entry) : Tree :=
  { t with entries := (at_, e) :: t.entries.filter fun x => x.1 != at_ }

/-- Where the names of a path begin. -/
def origin (t : Tree) (path : String) : List String :=
  if isAbsolute path then [] else t.working

/-- Follows a name from a place, which has to be a directory. -/
def step (t : Tree) (at_ : List String) (name : String) : Except StorageError (List String) :=
  match t.get? at_ with
  | some .directory =>
    .ok (if name == "." then at_ else if name == ".." then at_.dropLast else at_ ++ [name])
  | some (.file _) => .error .notDirectory
  | none => .error .notFound

/-- Where a path leads. -/
def resolve (t : Tree) (path : String) : Except StorageError (List String) :=
  if path.isEmpty then .error .notFound
  else (names path).foldlM t.step (t.origin path)

/-- What stands at a path, if anything. -/
def entry? (t : Tree) (path : String) : Option Entry :=
  match t.resolve path with
  | .ok at_ => t.get? at_
  | .error _ => none

/-- Makes the directories that are missing on a path. -/
def createDirectories (t : Tree) (path : String) : Except StorageError Tree := do
  let rec create (t : Tree) (at_ : List String) : List String → Except StorageError Tree
    | [] => return t
    | name :: rest => do
      let at_ ← t.step at_ name
      match t.get? at_ with
      | some .directory => create t at_ rest
      | none => create (t.set at_ .directory) at_ rest
      | some (.file _) => throw (if rest.isEmpty then .exists_ else .notDirectory)
  create t (t.origin path) (names path)

/-- Adds to the end of a file, which is made if it is missing. -/
def append (t : Tree) (path : String) (content : ByteArray) : Except StorageError Tree := do
  let at_ ← t.resolve path
  match t.get? at_ with
  | some .directory => throw .isDirectory
  | some (.file old) => return t.set at_ (.file (old ++ content))
  | none =>
    match t.get? at_.dropLast with
    | some .directory => return t.set at_ (.file content)
    | _ => throw .notFound

end Tree

end LuaSession.Storage
