import Gamebook.Disk

/-! # Archives

An archive keeps transcripts: in memory, in a database of its own that vanishes when it is closed, or
in a database on a disk. A database that is closed answers nothing any more; memory cannot be closed.
-/

namespace Gamebook

/-- Where an archive keeps its transcripts. -/
inductive Shelf where
  | memory (m : Transcript.Memory)
  /-- A database that belongs to this archive alone. -/
  | loose (tables : Transcript.Tables)
  /-- A database on the disk, by its clean absolute path. -/
  | filed (place : Text)
  deriving DecidableEq, Repr, Inhabited

/-- An archive. -/
structure Archive where
  shelf : Shelf
  closed : Bool := false
  deriving DecidableEq, Repr, Inhabited

namespace Archive

open Transcript

/-- The failure of a database that is closed. -/
def isClosed : Failure :=
  [.said "sql", .said "database is closed"]

/-- The failure to open a database where none can be. -/
def cannotOpen : Failure :=
  [.said "unable to open database file", .said "out of memory (14)"]

/-- The failure to open a file that is something else. -/
def noDatabase : Failure :=
  [.said "file is not a database (26)"]

/-- The path of a database that is kept in memory. -/
def inMemory : Text := ":memory:"

/-- An archive in memory. -/
def ofMemory : Archive :=
  { shelf := .memory .empty }

/-- Opens the database that a path leads to, or makes one. -/
def openDatabase (path : Text) (d : Disk) : Except Failure (Archive × Disk) :=
  if path.isEmpty ∨ path = inMemory then .ok ({ shelf := .loose .empty }, d)
  else
    match d.placeFor path with
    | .error _ => .error cannotOpen
    | .ok (place, node) =>
      let filed (tables : Tables) : Archive × Disk :=
        ({ shelf := .filed place }, d.put place (.database tables))
      match node with
      | some .folder => .error cannotOpen
      | some (.database tables) => tables.reopened.map filed
      | some (.file (_ :: _)) => .error noDatabase
      | _ => .ok (filed .empty)

/-- The tables of a database on the disk. -/
def tablesAt (place : Text) (d : Disk) : Tables :=
  match d.node? place with
  | some (.database tables) => tables
  | _ => {}

/-- An archive with the disk on which it may be kept. -/
abbrev Kept := Archive × Disk

/-- Changes the transcripts of an archive. -/
def change (inMemory : Memory → Option Failure × Memory) (inTables : Tables → Option Failure × Tables)
    (k : Kept) : Option Failure × Kept :=
  let (a, d) := k
  match a.shelf with
  | .memory m =>
    let (failure, m) := inMemory m
    (failure, { a with shelf := .memory m }, d)
  | .loose tables =>
    if a.closed then (some isClosed, k)
    else
      let (failure, tables) := inTables tables
      (failure, { a with shelf := .loose tables }, d)
  | .filed place =>
    if a.closed then (some isClosed, k)
    else
      let (failure, tables) := inTables (tablesAt place d)
      (failure, a, d.put place (.database tables))

/-- Asks the transcripts of an archive. -/
def ask {α : Type} (ofMemory : Memory → α) (ofTables : Tables → α) (k : Kept) : Except Failure α :=
  let (a, d) := k
  match a.shelf with
  | .memory m => .ok (ofMemory m)
  | .loose tables => if a.closed then .error isClosed else .ok (ofTables tables)
  | .filed place => if a.closed then .error isClosed else .ok (ofTables (tablesAt place d))

/-- Starts a session. -/
def start (id entry : Text) (k : Kept) : Option Failure × Kept :=
  if k.1.closed then (some (.said ("store: begin session " ++ id) :: isClosed), k)
  else change (Memory.start id entry) (Tables.start id entry) k

/-- Adds an entry to a session. -/
def append (id kind address detail : Text) (k : Kept) : Option Failure × Kept :=
  change (Memory.append id kind address detail) (Tables.append id kind address detail) k

/-- Ends a session. -/
def finish (id outcome : Text) (k : Kept) : Option Failure × Kept :=
  change (Memory.close id outcome) (Tables.close id outcome) k

/-- Sets the value of a key. -/
def setMetadata (key value : Text) (k : Kept) : Option Failure × Kept :=
  change (fun m => (none, m.setMetadata key value)) (fun t => (none, t.setMetadata key value)) k

/-- The header of a session. -/
def session? (id : Text) (k : Kept) : Except Failure (Option Header) :=
  ask (fun m => m.session? id) (fun t => t.session? id) k

/-- The headers of the sessions, newest first. -/
def headers (limit : Int) (k : Kept) : Except Failure (List Header) :=
  ask (fun m => m.headers limit) (fun t => t.headers limit) k

/-- The entries of a session, oldest first. -/
def entries (id : Text) (limit : Int) (k : Kept) : Except Failure (List Transcript.Entry) :=
  ask (fun m => m.entries id limit) (fun t => t.entriesOf id limit) k

/-- The value of a key. -/
def getMetadata (key : Text) (k : Kept) : Except Failure Text :=
  ask (fun m => m.getMetadata key) (fun t => t.getMetadata key) k

/-- Closes an archive. Memory stays as it is. -/
def close (a : Archive) : Archive :=
  match a.shelf with
  | .memory _ => a
  | _ => { a with closed := true }

/-- An archive as a recorder. -/
def recorder : Recorder Kept :=
  { start, append, close := finish }

end Archive

end Gamebook
