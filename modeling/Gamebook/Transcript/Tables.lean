import Gamebook.Transcript.Memory

/-! # Transcripts in tables

The tables of a transcript database: one row for each session, one row for each entry of any
session, and one row for each key of the metadata. Sessions are numbered in the order in which they
come in; entries are numbered within their session.
-/

namespace Gamebook.Transcript

/-- A row of the table of sessions. -/
structure SessionRow where
  row : Nat
  id : Text
  entry : Text
  ended : Bool
  outcome : Text
  deriving DecidableEq, Repr, Inhabited

/-- A row of the table of entries. -/
structure EntryRow where
  session : Text
  seq : Nat
  kind : Text
  address : Text
  detail : Text
  deriving DecidableEq, Repr, Inhabited

/-- The tables of a transcript database. -/
structure Tables where
  sessions : List SessionRow := []
  entries : List EntryRow := []
  metadata : List (Text × Text) := []
  deriving DecidableEq, Repr, Inhabited

namespace SessionRow

/-- A row as a header. -/
def header (r : SessionRow) : Header :=
  ⟨r.id, r.entry, r.ended, r.outcome⟩

end SessionRow

namespace EntryRow

/-- A row as an entry. -/
def toEntry (r : EntryRow) : Entry :=
  ⟨r.seq, r.kind, r.address, r.detail⟩

end EntryRow

/-- The greatest of some numbers, or zero. -/
def greatest (numbers : List Nat) : Nat :=
  numbers.foldl Nat.max 0

/-- An element put into a list in increasing order of a number, behind equal ones. -/
def insertBy {α : Type} (key : α → Nat) (a : α) : List α → List α
  | [] => [a]
  | b :: rest => if key a < key b then a :: b :: rest else b :: insertBy key a rest

/-- The elements of a list in increasing order of a number. -/
def orderedBy {α : Type} (key : α → Nat) (l : List α) : List α :=
  l.foldl (fun sorted a => insertBy key a sorted) []

namespace Tables

/-- The key under which the version of the tables is kept. -/
def versionKey : Text := "schema_version"

/-- The version of the tables. -/
def version : Text := "1"

/-- Tables without any session. -/
def empty : Tables :=
  { metadata := [(versionKey, version)] }

/-- The rows that a query gives with a limit. A limit that is not positive is left out of the query. -/
def upTo {α : Type} (limit : Int) (rows : List α) : List α :=
  if 0 < limit then rows.take limit.toNat else rows

/-- Whether a session is known. -/
def knows (t : Tables) (id : Text) : Bool :=
  t.sessions.any fun r => r.id = id

/-- Starts a session. -/
def start (id entry : Text) (t : Tables) : Option Failure × Tables :=
  if t.knows id then
    (some [.said ("store: begin session " ++ id),
      .said "constraint failed", .said "UNIQUE constraint failed", .said "sessions.id (1555)"], t)
  else
    let row := greatest (t.sessions.map SessionRow.row) + 1
    (none, { t with sessions := t.sessions ++ [⟨row, id, entry, false, []⟩] })

/-- Adds an entry to a session, numbered after the last one. -/
def append (id kind address detail : Text) (t : Tables) : Option Failure × Tables :=
  if t.knows id then
    let seq := greatest ((t.entries.filter fun r => r.session = id).map EntryRow.seq) + 1
    (none, { t with entries := t.entries ++ [⟨id, seq, kind, address, detail⟩] })
  else (some (unknownSession id), t)

/-- Ends a session. -/
def close (id outcome : Text) (t : Tables) : Option Failure × Tables :=
  if t.knows id then
    (none, { t with
      sessions := t.sessions.map fun r => if r.id = id then { r with ended := true, outcome } else r })
  else (some (unknownSession id), t)

/-- The header of a session. -/
def session? (t : Tables) (id : Text) : Option Header :=
  (t.sessions.find? fun r => r.id = id).map SessionRow.header

/-- The headers of the sessions, the row with the greatest number first. -/
def headers (t : Tables) (limit : Int) : List Header :=
  upTo limit ((orderedBy SessionRow.row t.sessions).reverse.map SessionRow.header)

/-- The entries of a session in increasing order of their numbers. -/
def entriesOf (t : Tables) (id : Text) (limit : Int) : List Entry :=
  upTo limit
    ((orderedBy EntryRow.seq (t.entries.filter fun r => r.session = id)).map EntryRow.toEntry)

/-- The value in the row of a key, or the empty text if there is no such row. -/
def getMetadata (t : Tables) (key : Text) : Text :=
  ((t.metadata.find? fun row => row.1 = key).map Prod.snd).getD []

/-- Sets the value of a key, in its row or in a new one. -/
def setMetadata (key value : Text) (t : Tables) : Tables :=
  if t.metadata.any fun row => row.1 = key then
    { t with metadata := t.metadata.map fun row => if row.1 = key then (key, value) else row }
  else { t with metadata := t.metadata ++ [(key, value)] }

/-- The tables as they are when they are opened again. Tables without a version get one; other
    versions than this one cannot be read. -/
def reopened (t : Tables) : Except Failure Tables :=
  let found := t.getMetadata versionKey
  if found.isEmpty then .ok (t.setMetadata versionKey version)
  else if found = version then .ok t
  else
    .error [.said "store", .said "unsupported schema version",
      .said (found ++ " (expected " ++ version ++ ")")]

/-- Tables as a recorder. -/
def recorder : Recorder Tables :=
  { start, append, close }

end Tables

end Gamebook.Transcript
