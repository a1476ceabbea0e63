/-!
Directories and files, found by path. A path is followed name by name: each name but the
last must be a directory, `.` stays where it is and `..` goes up, at the root to the root
itself. The fault of the first name that cannot be followed counts.
-/

namespace Wayfinding.Command

/-- Why a file could not be read. -/
inductive FileFault where
  | absent
  | denied
  | notDirectory
  | isDirectory
  | nameTooLong
  | notText
  | other (description : String)
  deriving DecidableEq, Repr

def FileFault.message : FileFault → String
  | absent => "No such file or directory (os error 2)"
  | denied => "Permission denied (os error 13)"
  | notDirectory => "Not a directory (os error 20)"
  | isDirectory => "Is a directory (os error 21)"
  | nameTooLong => "File name too long (os error 36)"
  | notText => "stream did not contain valid UTF-8"
  | other description => description

inductive Entry where
  | directory
  | file (text : String)
  deriving DecidableEq, Repr

/-- The names on the way from the root. -/
abbrev Place := List String

/-- The entries below the root, and the directory where relative paths start. -/
structure FileTree where
  entries : List (Place × Entry)
  workingDirectory : Place

namespace FileTree

def entryAt (tree : FileTree) (place : Place) : Option Entry :=
  if place.isEmpty then some .directory else tree.entries.lookup place

def insert (tree : FileTree) (place : Place) (text : String) : FileTree :=
  { tree with entries := (place, .file text) :: tree.entries }

theorem entryAt_insert (tree : FileTree) {place : Place} (text : String) (h : place ≠ []) :
    (tree.insert place text).entryAt place = some (.file text) := by
  simp [entryAt, insert, h]

/-- The names between the slashes of a path. -/
def namesOf (path : List Char) : List String :=
  let (name, names) := path.foldr
    (fun c (name, names) =>
      if c = '/' then ([], String.ofList name :: names) else (c :: name, names))
    ([], [])
  String.ofList name :: names

/-- An empty name, as after a slash at the end of a path, asks for a directory too. -/
def follow (tree : FileTree) (place : Place) (name : String) : Except FileFault Place :=
  if tree.entryAt place ≠ some .directory then .error .notDirectory
  else if name = "" ∨ name = "." then .ok place
  else if name = ".." then .ok place.dropLast
  else if 255 < name.utf8ByteSize then .error .nameTooLong
  else if (tree.entryAt (place ++ [name])).isNone then .error .absent
  else .ok (place ++ [name])

def locate (tree : FileTree) (path : String) : Except FileFault Place :=
  if path = "" then .error .absent
  else if 4096 ≤ path.utf8ByteSize then .error .nameTooLong
  else
    let start := if path.toList.head? = some '/' then [] else tree.workingDirectory
    (namesOf path.toList).foldlM tree.follow start

def read (tree : FileTree) (path : String) : Except FileFault String := do
  match tree.entryAt (← tree.locate path) with
  | some (.file text) => pure text
  | some .directory => throw .isDirectory
  | none => throw .absent

/-- What every host has: the directories of the usual hierarchy and the null device, which
reads as an empty file. -/
def standard : FileTree where
  entries :=
    (["dev", "null"], .file "") ::
      ([["bin"], ["boot"], ["dev"], ["etc"], ["home"], ["lib"], ["media"], ["mnt"], ["opt"],
        ["proc"], ["root"], ["run"], ["sbin"], ["srv"], ["sys"], ["tmp"], ["usr"], ["var"],
        ["dev", "shm"], ["usr", "bin"], ["usr", "lib"], ["usr", "local"], ["usr", "sbin"],
        ["usr", "share"], ["var", "cache"], ["var", "lib"], ["var", "log"],
        ["var", "tmp"]].map (·, .directory))
  workingDirectory := ["tmp"]

end FileTree
end Wayfinding.Command
