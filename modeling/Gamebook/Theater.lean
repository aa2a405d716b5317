import Gamebook.Archive
import Gamebook.LineReader
import Gamebook.Screen
import Gamebook.Session.Run
import Gamebook.Session.Shown

/-! # Theaters

A theater plays stories from a disk, one session after another. Every session has its own inventory
and reads its files anew; what lasts from one to the next is the input that was not used, the output,
and the archive of transcripts.
-/

namespace Gamebook

/-- Where the player's answers come from. -/
inductive AnswerSource where
  /-- Lines of a text. -/
  | lines (reader : LineReader) (feed : Feed)
  /-- Lines of the standard input. -/
  | standard (reader : LineReader)
  /-- Answers that are laid out beforehand. -/
  | script (answers : List Text)
  deriving DecidableEq, Repr, Inhabited

/-- Where a session is shown. -/
inductive Outlet where
  /-- As plain text. -/
  | sink (sink : Sink)
  /-- As plain text on the standard output. -/
  | standard
  /-- As data. -/
  | record (shown : List Shown)
  deriving DecidableEq, Repr, Inhabited

/-- What a theater is given when it opens. -/
structure Theater where
  answers : AnswerSource
  outlet : Outlet
  /-- What the player holds at the start of each session. -/
  inventory : List Text := []
  maxRetries : Int := 0
  /-- Where transcripts are kept. -/
  archive : Option Archive := none
  /-- Why no session can be played. -/
  failure : Option Failure := none
  deriving DecidableEq, Repr, Inhabited

/-- A theater in its surroundings. -/
structure House where
  theater : Theater
  disk : Disk
  /-- The standard input. -/
  input : Feed := {}
  /-- What was written to the standard output. -/
  output : Text := []
  /-- Why sessions are to stop, if they are. -/
  halted : Option Failure := none
  /-- How many more times sessions are told to go on before they are to stop. -/
  grace : Nat := 0
  deriving DecidableEq, Repr, Inhabited

namespace House

/-- Why a session is to stop now, if it is. -/
def ask (h : House) : Option Failure × House :=
  match h.grace with
  | 0 => (h.halted, h)
  | n + 1 => (none, { h with grace := n })

/-- Where plain text goes that is not for the standard output. -/
def sink (h : House) : Sink :=
  match h.theater.outlet with
  | .sink sink => sink
  | _ => {}

/-- Writes plain text without asking whether it arrives. -/
def write (t : Text) (h : House) : House :=
  match h.theater.outlet with
  | .sink sink =>
    if t.isEmpty then h
    else { h with theater := { h.theater with outlet := .sink (sink.write t).2 } }
  | .standard => { h with output := h.output ++ t }
  | .record _ => h

/-- Reads a line for the player. -/
def readLine (h : House) : ReadLine × House :=
  let (stop?, h) := h.ask
  match h.theater.answers with
  | .lines reader feed =>
    let (found, reader, feed) := reader.read stop? feed
    let h := h.write found.prompt
    (found, { h with theater := { h.theater with answers := .lines reader feed } })
  | .standard reader =>
    let (found, reader, input) := reader.read stop? h.input
    let h := h.write found.prompt
    (found, { h with input, theater := { h.theater with answers := .standard reader } })
  | .script answers =>
    match stop?, answers with
    | some cause, _ => ({ line := [], failure := some cause }, h)
    | none, [] => ({ line := [], failure := some [.endOfInput] }, h)
    | none, answer :: rest =>
      ({ line := answer }, { h with theater := { h.theater with answers := .script rest } })

/-- At least as many answers as can still come. -/
def answersLeft (h : House) : Nat :=
  match h.theater.answers with
  | .lines reader feed => (reader.buffer ++ feed.waiting).count LineReader.lineEnd + 1
  | .standard reader => (reader.buffer ++ h.input.waiting).count LineReader.lineEnd + 1
  | .script answers => answers.length

/-- The player, who gives what can be read and then the failure to read more. -/
def player (h : House) : Player House where
  answers := List.replicate h.answersLeft fun _ h =>
    let (found, h) := h.readLine
    match found.failure with
    | none => (.ok found.line, h)
    | some cause => (.error cause, h)
  last _ h :=
    let (found, h) := h.readLine
    (found.failure.getD [.endOfInput], h)

/-- Shows something, as plain text or as data. -/
def display (lines : List Text) (shown : Shown) (h : House) : Option Failure × House :=
  match h.theater.outlet with
  | .sink sink =>
    let (failure, sink) := sink.writeAll lines
    (failure, { h with theater := { h.theater with outlet := .sink sink } })
  | .standard => (none, { h with output := h.output ++ lines.flatten })
  | .record before =>
    (none, { h with theater := { h.theater with outlet := .record (before ++ [shown]) } })

/-- A theater as the host of a session. -/
def host : Host House where
  halted := ask
  read path h := (h.disk.read path, h)
  tell lines := display (Screen.lines lines) (.lines lines)
  offer choices := display (Screen.choices choices) (.choices choices)
  complain message := display (Screen.complaint message) (.complaint message)

/-- The version that is noted in archives. -/
def version : Text := "0.1.0"

/-- The key of the version in the metadata of an archive. -/
def versionKey : Text := "narrate_version"

/-- The key of the entry of the last session in the metadata of an archive. -/
def lastEntryKey : Text := "last_entry"

/-- Notes a value in the metadata of the archive. A failure to do so goes to the log only. -/
def noteMetadata (key value : Text) (h : House) : List Log.Entry × House :=
  match h.theater.archive with
  | none => ([], h)
  | some archive =>
    let (failure, archive, disk) := Archive.setMetadata key value (archive, h.disk)
    let warning (f : Failure) : Log.Entry :=
      ⟨.warn, "transcript metadata write failed", [("key", .text key), ("error", .text f.text)]⟩
    (failure.toList.map warning,
      { h with disk, theater := { h.theater with archive := some archive } })

/-- Opens the theater: the version is noted in its archive. -/
def opened (h : House) : List Log.Entry × House :=
  h.noteMetadata versionKey version

/-- Plays a session from an entry to its end, with a crew that writes it down on a tape. -/
def perform {τ : Type} (crew : Crew τ) (tape : τ) (id : Text) (entry : Address) (h : House) :
    Option Failure × Play House τ :=
  let session : Session :=
    { id, maxRetries := h.theater.maxRetries, inventory := Inventory.ofItems h.theater.inventory }
  let start : Play House τ :=
    { session, loader := { directory := h.disk.directory }, world := h, events := tape }
  start.run host (some h.player) entry

/-- Plays a session from an entry to its end. It is recorded in the archive, if there is one. -/
def play (id : Text) (entry : Address) (h : House) : Option Failure × List Log.Entry × House :=
  match h.theater.failure with
  | some failure => (some failure, [], h)
  | none =>
    let (before, h) := h.noteMetadata lastEntryKey entry.text
    match h.theater.archive with
    | none =>
      let (failure, p) := h.perform Transcript.unrecorded { keeper := () } id entry
      (failure, before ++ p.events.log, p.world)
    | some archive =>
      let (failure, p) := h.perform Archive.recorder.crew { keeper := (archive, h.disk) } id entry
      let (archive, disk) := p.events.keeper
      (failure, before ++ p.events.log,
        { p.world with disk, theater := { p.world.theater with archive := some archive } })

/-- Closes the archive. -/
def close (h : House) : House :=
  { h with theater := { h.theater with archive := h.theater.archive.map Archive.close } }

end House

/-- The theater with the transcripts of a database. If it cannot be opened, nothing can be played. -/
def Theater.keeping (path : Text) (t : Theater) (d : Disk) : Theater × Disk :=
  match Archive.openDatabase path d with
  | .ok (archive, d) => ({ t with archive := some archive }, d)
  | .error cause =>
    ({ t with failure := some (.said "narrate" :: .said ("open transcript " ++ path) :: cause) }, d)

/-- What is found in the file that a path leads to. -/
def Disk.check (d : Disk) (path : Text) : Except Failure (List Diagnostic) × List Log.Entry :=
  let loader : Loader := { directory := d.directory }
  let found := loader.load (fun path (d : Disk) => (d.read path, d)) path d
  (found.result.map Loaded.diagnostics, found.log)

end Gamebook
