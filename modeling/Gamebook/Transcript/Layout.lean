import Gamebook.Text.Numeral
import Gamebook.Transcript.Tables

/-! # The layout of a transcript file

The tables of a transcript database as the bytes of a file: a heading, and then every value in turn as
a field that starts with its own length. A list starts with the number of its elements. So no value
needs to be escaped, and a file can be told from any other by its heading.
-/

namespace Gamebook.Transcript.Layout

/-- The line with which a transcript file starts. -/
def heading : Text := "transcript tables 1\n"

/-- A text as a field: its length, a colon, and its bytes. -/
def field (t : Text) : Text :=
  Text.ofNat t.length ++ ":" ++ t

/-- A number as a field. -/
def number (n : Nat) : Text :=
  field (Text.ofNat n)

/-- A truth value as a field. -/
def flag (b : Bool) : Text :=
  number b.toNat

/-- A list: the number of its elements, and each of them. -/
def list {α : Type} (write : α → Text) (l : List α) : Text :=
  number l.length ++ l.flatMap write

/-- A row of the table of sessions. -/
def sessionRow (r : SessionRow) : Text :=
  number r.row ++ field r.id ++ field r.entry ++ flag r.ended ++ field r.outcome

/-- A row of the table of entries. -/
def entryRow (r : EntryRow) : Text :=
  field r.session ++ number r.seq ++ field r.kind ++ field r.address ++ field r.detail

/-- A key of the metadata with its value. -/
def metadataRow (r : Text × Text) : Text :=
  field r.1 ++ field r.2

/-- The tables as the bytes of a file. -/
def ofTables (t : Tables) : Text :=
  heading ++ list sessionRow t.sessions ++ list entryRow t.entries ++ list metadataRow t.metadata

/-- The text of the first field, and what comes after the field. -/
def readField (t : Text) : Option (Text × Text) :=
  match t.dropWhile Text.isDecimal with
  | 0x3A :: rest => do
    let length ← Text.toNat? (t.takeWhile Text.isDecimal)
    if length ≤ rest.length then some (rest.take length, rest.drop length) else none
  | _ => none

/-- The number in the first field, and what comes after the field. -/
def readNumber (t : Text) : Option (Nat × Text) := do
  let (digits, t) ← readField t
  return (← Text.toNat? digits, t)

/-- Some elements in turn, and what comes after them. -/
def readMany {α : Type} (read : Text → Option (α × Text)) : Nat → Text → Option (List α × Text)
  | 0, t => some ([], t)
  | n + 1, t => do
    let (a, t) ← read t
    let (rest, t) ← readMany read n t
    return (a :: rest, t)

/-- A list, and what comes after it. -/
def readList {α : Type} (read : Text → Option (α × Text)) (t : Text) : Option (List α × Text) := do
  let (count, t) ← readNumber t
  readMany read count t

/-- A row of the table of sessions, and what comes after it. -/
def readSessionRow (t : Text) : Option (SessionRow × Text) := do
  let (row, t) ← readNumber t
  let (id, t) ← readField t
  let (entry, t) ← readField t
  let (ended, t) ← readNumber t
  let (outcome, t) ← readField t
  return (⟨row, id, entry, ended = 1, outcome⟩, t)

/-- A row of the table of entries, and what comes after it. -/
def readEntryRow (t : Text) : Option (EntryRow × Text) := do
  let (session, t) ← readField t
  let (seq, t) ← readNumber t
  let (kind, t) ← readField t
  let (address, t) ← readField t
  let (detail, t) ← readField t
  return (⟨session, seq, kind, address, detail⟩, t)

/-- A key of the metadata with its value, and what comes after them. -/
def readMetadataRow (t : Text) : Option ((Text × Text) × Text) := do
  let (key, t) ← readField t
  let (value, t) ← readField t
  return ((key, value), t)

/-- The tables that the bytes of a file hold, if it is a transcript file. -/
def toTables? (contents : Text) : Option Tables := do
  if ¬ heading.isPrefixOf contents then none
  let (sessions, t) ← readList readSessionRow (contents.drop heading.length)
  let (entries, t) ← readList readEntryRow t
  let (metadata, t) ← readList readMetadataRow t
  if t.isEmpty then some { sessions, entries, metadata } else none

end Gamebook.Transcript.Layout
