import Gamebook.Path
import Gamebook.Transcript.Tables

/-! # Disks

A disk holds folders, files and transcript databases, each at an absolute path. Paths are walked name
by name: every name but the last must be that of a folder, and a slash at the end asks for a folder
too.
-/

namespace Gamebook

/-- What is found at a path. -/
inductive Node where
  | folder
  | file (contents : Text)
  /-- A file that holds a transcript database. -/
  | database (tables : Transcript.Tables)
  deriving DecidableEq, Repr, Inhabited

/-- A disk, seen from a folder. -/
structure Disk where
  /-- The folder from which relative paths start. -/
  directory : Text
  /-- What is at each clean absolute path. -/
  nodes : List (Text × Node) := []
  deriving DecidableEq, Repr, Inhabited

namespace Disk

/-- There is nothing at a path. -/
def nothingThere : Link := .missing "no such file or directory"

/-- A name on the way is not that of a folder. -/
def noFolder : Link := .said "not a directory"

/-- A folder stands where a file is asked for. -/
def isFolder : Link := .said "is a directory"

/-- The longest name that anything on a disk may have. -/
def longestName : Nat := 255

/-- What is at a clean absolute path. The root is always a folder. -/
def node? (d : Disk) (path : Text) : Option Node :=
  match d.nodes.lookup path with
  | some node => some node
  | none => if path = [Path.slash] then some .folder else none

/-- The disk with something at a clean absolute path. -/
def put (d : Disk) (path : Text) (node : Node) : Disk :=
  { d with nodes := (path, node) :: d.nodes.filter fun (p, _) => p ≠ path }

/-- The path of a name in a folder. -/
def child (folder name : Text) : Text :=
  if folder = [Path.slash] then folder ++ name else folder ++ [Path.slash] ++ name

/-- One name further on the way from a place. -/
def step (d : Disk) (place : Text × Node) (name : Text) : Except Link (Text × Node) :=
  match place with
  | (here, .folder) =>
    if name = [] ∨ name = Text.ofString "." then .ok place
    else if name = Text.ofString ".." then
      .ok (Path.directory here, (d.node? (Path.directory here)).getD .folder)
    else if longestName < name.length then .error (.said "file name too long")
    else
      match d.node? (child here name) with
      | some node => .ok (child here name, node)
      | none => .error nothingThere
  | _ => .error noFolder

/-- The place at which a way along names ends. -/
def walk (d : Disk) (place : Text × Node) (names : List Text) : Except Link (Text × Node) :=
  names.foldlM d.step place

/-- Where the way along a path starts. -/
def origin (d : Disk) (path : Text) : Text × Node :=
  let here := if Path.isAbsolute path then [Path.slash] else d.directory
  (here, (d.node? here).getD .folder)

/-- What a path leads to, with its clean absolute path. -/
def find (d : Disk) (path : Text) : Except Link (Text × Node) :=
  if path.isEmpty then .error nothingThere
  else if path.contains 0 then .error (.said "invalid argument")
  else d.walk (d.origin path) (Text.split Path.slash path)

/-- Opens what a path leads to. -/
def openAt (d : Disk) (path : Text) : Except Failure Node :=
  match d.find path with
  | .ok (_, node) => .ok node
  | .error link => .error [.said ("open " ++ path), link]

/-- What is read from something that was opened by a path. -/
def contents (path : Text) : Node → Except Failure Text
  | .folder => .error [.said ("read " ++ path), isFolder]
  | .file contents => .ok contents
  | .database _ => .ok []

/-- The contents of the file that a path leads to. -/
def read (d : Disk) (path : Text) : Except Failure Text := do
  contents path (← d.openAt path)

/-- Where a file at a path is or would be made: its clean absolute path, and what is there. -/
def placeFor (d : Disk) (path : Text) : Except Link (Text × Option Node) :=
  match d.find path with
  | .ok (place, node) => .ok (place, some node)
  | .error link =>
    if link ≠ nothingThere then .error link
    else
      match (Text.split Path.slash path).reverse with
      | [] => .error link
      | name :: above =>
        match d.walk (d.origin path) above.reverse with
        | .error link => .error link
        | .ok (folder, node) =>
          if node ≠ .folder then .error noFolder
          else if path.isEmpty then .error link
          else if name.isEmpty then .error isFolder
          else .ok (child folder name, none)

/-- The clean absolute path of a file to which lines are to be added. The file is made if it is not
    there. -/
def openToAppend (d : Disk) (path : Text) : Except Failure (Text × Disk) :=
  match d.placeFor path with
  | .error link => .error [.said ("open " ++ path), link]
  | .ok (_, some .folder) => .error [.said ("open " ++ path), isFolder]
  | .ok (place, some _) => .ok (place, d)
  | .ok (place, none) => .ok (place, d.put place (.file []))

/-- Adds text to the file at a clean absolute path. -/
def append (d : Disk) (place text : Text) : Disk :=
  match d.node? place with
  | some (.file contents) => d.put place (.file (contents ++ text))
  | _ => d

/-- The paths of the folders above a clean absolute path, the root first. -/
def foldersAbove (path : Text) : List Text :=
  let names := (Text.split Path.slash path).dropLast.filter (· ≠ [])
  (names.foldl (fun (folders : List Text) name =>
    child (folders.headD [Path.slash]) name :: folders) []).reverse

/-- The disk with the folders above a clean absolute path. -/
def withFoldersAbove (d : Disk) (path : Text) : Disk :=
  (foldersAbove path).foldl (fun d folder =>
    if (d.node? folder).isSome then d else d.put folder .folder) d

/-- The disk with a file or folder at a path that starts from its directory, and the folders above
    it. -/
def place (d : Disk) (path : Text) (node : Node) : Disk :=
  let path := Path.absolute d.directory path
  (d.withFoldersAbove path).put path node

end Disk

end Gamebook
