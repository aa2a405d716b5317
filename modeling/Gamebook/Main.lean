import Gamebook.Command.Reach
import Gamebook.Session.Id
import Gamebook.Transcript.Layout
import Std.Time

/-! # The command line

The command as a program. What it does is computed from its arguments, from the files that it may
read, and from the input that has arrived so far. When a session has used up that input, what it has
shown is printed, one more line is read, and the session is computed again with it. Files are written
when the command is over.
-/

namespace Gamebook.Terminal

/-- The bytes of a text. -/
def bytes (t : Text) : ByteArray :=
  ⟨t.toArray⟩

/-- What is at a clean absolute path. -/
def look (path : Text) : IO (Option Node) := do
  match String.fromUTF8? (bytes path) with
  | none => return none
  | some name =>
    try
      let contents : Text := (← IO.FS.readBinFile name).toList
      match Transcript.Layout.toTables? contents with
      | some tables => return some (.database tables)
      | none => return some (.file contents)
    catch
      | .inappropriateType .. => return some .folder
      | _ => return none

/-- The disk with all that is on the way along a path. -/
def fetch (d : Disk) (path : Text) : IO Disk := do
  let names := Text.split Path.slash path
  let mut d := d
  for n in List.range names.length do
    let place := Path.absolute d.directory (Text.join [Path.slash] (names.take (n + 1)))
    if d.node? place = none ∧ d.node? (Path.directory place) = some .folder then
      if let some node ← look place then d := d.put place node
  return d

/-- The disk with all that a command may read. -/
partial def gather (i : Invocation) (d : Disk) (seen : List Text) : IO Disk := do
  match (Command.reach i d seen).find? fun path => ¬ seen.contains path with
  | none => return d
  | some path => gather i (← fetch d path) (path :: seen)

/-- The bytes up to the end of a line, with it, or up to the end of the input. -/
partial def nextLine (input : IO.FS.Stream) (before : Text) : IO Text := do
  let found : Text := (← input.read 1).toList
  if found.isEmpty ∨ found = [LineReader.lineEnd] then return before ++ found
  else nextLine input (before ++ found)

/-- Writes the files that a command has changed. -/
def store (before after : Disk) : IO Unit := do
  for (place, node) in after.nodes do
    if before.node? place ≠ some node then
      if let some name := String.fromUTF8? (bytes place) then
        match node with
        | .folder => pure ()
        | .file contents => IO.FS.writeBinFile name (bytes contents)
        | .database tables => IO.FS.writeBinFile name (bytes (Transcript.Layout.ofTables tables))

/-- Runs a command to its end, of whose session some bytes have been printed. -/
partial def attend (i : Invocation) (d : Disk) (printed : Nat) : IO Nat := do
  let (status, console) := Command.run i d
  let output ← IO.getStdout
  let shown := console.text .out
  output.write (bytes (shown.drop printed))
  output.flush
  if console.awaitsInput then
    let line ← nextLine (← IO.getStdin) []
    let ended := line.getLast? ≠ some LineReader.lineEnd
    let input : Feed :=
      { waiting := i.input.waiting ++ line
        ending := if ended then [.endOfInput] else Feed.unfinished }
    attend { i with input } d shown.length
  else
    let errors ← IO.getStderr
    for (stream, text) in console.written do
      match stream with
      | .out => pure ()
      | .logOut => output.write (bytes text)
      | .err | .logErr => errors.write (bytes text)
    store d console.disk
    return status

/-- The variables of the environment that hold settings. -/
def environment : IO Environment := do
  let mut found : Environment := []
  for key in Settings.variableNames do
    if let some name := String.fromUTF8? (bytes key) then
      if let some value ← IO.getEnv name then
        found := found ++ [(key, Text.ofString value)]
  return found

/-- The time, as it is written into the log. -/
def now : IO Text := do
  let time ← Std.Time.Timestamp.now
  let date := Std.Time.DateTime.ofTimestamp time .UTC
  return Text.ofString (date.format "uuuu-MM-dd'T'HH:mm:ss.SSS'Z'")

/-- Runs the command with its arguments. -/
def run (arguments : List String) : IO Nat := do
  let directory := Text.ofString (toString (← IO.currentDir))
  let i : Invocation :=
    { arguments := arguments.map Text.ofString
      environment := ← environment
      input := { ending := Feed.unfinished }
      interactive := ← (← IO.getStdin).isTty
      time := ← now
      id := Session.nameOf (← IO.getRandomBytes 16).toList }
  let folders := (Disk.foldersAbove directory ++ [directory]).map fun path => (path, Node.folder)
  attend i (← gather i { directory, nodes := folders } []) 0

end Gamebook.Terminal

/-- Plays a story. -/
def main (arguments : List String) : IO UInt32 := do
  return (← Gamebook.Terminal.run arguments).toUInt32
