import Gamebook.Session.Run
import Gamebook.Session.Shown
import Gamebook.Transcript.Memory

/-! # Rehearsals

A rehearsal is a host whose world is plain data: files held in memory, a script of the player's
answers, and a record of everything that was shown. Calls can be made to fail, and the session to be
called off at a chosen call.
-/

namespace Gamebook

/-- What a host is asked to show. -/
inductive Cue where
  | lines
  | choices
  | complaint
  deriving DecidableEq, Repr, Inhabited

/-- A value for each cue. -/
structure PerCue (α : Type) where
  lines : α
  choices : α
  complaint : α
  deriving DecidableEq, Repr, Inhabited

namespace PerCue

/-- The value for a cue. -/
def get {α : Type} (p : PerCue α) : Cue → α
  | .lines => p.lines
  | .choices => p.choices
  | .complaint => p.complaint

/-- The values with the one for a cue changed. -/
def modify {α : Type} (p : PerCue α) (f : α → α) : Cue → PerCue α
  | .lines => { p with lines := f p.lines }
  | .choices => { p with choices := f p.choices }
  | .complaint => { p with complaint := f p.complaint }

end PerCue

/-- The name of a cue. -/
def Cue.text : Cue → Text
  | .lines => "flavortext"
  | .choices => "options"
  | .complaint => "error"

/-- A file of a rehearsal. -/
inductive StagedFile where
  | text (contents : Text)
  /-- Reading the file fails. -/
  | unreadable (failure : Failure)
  deriving DecidableEq, Repr, Inhabited

/-- The world of a rehearsal. -/
structure Rehearsal where
  /-- The files by their canonical paths. -/
  files : List (Text × StagedFile) := []
  /-- Whether nothing is shown at all. -/
  silent : Bool := false
  /-- How often each kind of thing was shown. -/
  calls : PerCue Nat := ⟨0, 0, 0⟩
  /-- The call of each kind that fails; zero for none. -/
  failAt : PerCue Nat := ⟨0, 0, 0⟩
  /-- The call of each kind at which the session is called off; zero for none. -/
  haltAt : PerCue Nat := ⟨0, 0, 0⟩
  /-- The file at whose reading the session is called off. -/
  haltOnRead : Option Text := none
  /-- Why the session is to stop. -/
  halted : Option Failure := none
  /-- What was shown. -/
  shown : List Shown := []
  /-- The paths that were read. -/
  reads : List Text := []
  deriving DecidableEq, Repr, Inhabited

namespace Rehearsal

/-- The failure to open a file that is not there. -/
def missingFile (path : Text) : Failure :=
  [.said ("open " ++ path), .missing "no such file or directory"]

/-- The world in which the session is called off, if it was not to stop already. -/
def halt (w : Rehearsal) : Rehearsal :=
  { w with halted := some (w.halted.getD [.calledOff]) }

/-- Reads a file. -/
def read : ReadFile Rehearsal := fun path w =>
  let w := { w with reads := w.reads ++ [path] }
  let w := if w.haltOnRead = some path then w.halt else w
  match w.files.lookup path with
  | some (.text contents) => (.ok contents, w)
  | some (.unreadable failure) => (.error failure, w)
  | none => (.error (missingFile path), w)

/-- Shows something, unless this call is to fail. -/
def display (cue : Cue) (what : Shown) (w : Rehearsal) : Option Failure × Rehearsal :=
  if w.silent then (none, w)
  else
    let w := { w with calls := w.calls.modify (· + 1) cue }
    let w := if w.calls.get cue = w.haltAt.get cue then w.halt else w
    if w.calls.get cue = w.failAt.get cue then
      (some [.said (cue.text ++ " sink closed")], w)
    else (none, { w with shown := w.shown ++ [what] })

/-- A rehearsal as a host. -/
def host : Host Rehearsal where
  halted w := (w.halted, w)
  read := read
  tell lines := display .lines (.lines lines)
  offer choices := display .choices (.choices choices)
  complain message := display .complaint (.complaint message)

/-- A player who gives the inputs in order and then ends the input. No input is given to a session
    that is to stop. -/
def scripted (inputs : List Text) : Player Rehearsal where
  answers := inputs.map fun input _ w =>
    match w.halted with
    | some cause => (.error cause, w)
    | none => (.ok input, w)
  last _ w := (w.halted.getD [.endOfInput], w)

/-- An answer as it is laid out for a player. -/
structure Reply where
  input : Text := []
  /-- Given in place of the input. -/
  failure : Option Failure := none
  /-- Whether the session is called off first. -/
  halts : Bool := false
  deriving DecidableEq, Repr, Inhabited

/-- A player who gives the replies in order, whether or not the session is to stop, and then ends
    the input. -/
def staged (replies : List Reply) : Player Rehearsal where
  answers := replies.map fun reply count w =>
    let w := { w with shown := w.shown ++ [.asked count] }
    let w := if reply.halts then w.halt else w
    match reply.failure with
    | some cause => (.error cause, w)
    | none => (.ok reply.input, w)
  last _ w := ([.endOfInput], w)

/-- The replies as a player. Replies that are nothing but inputs make a scripted one. -/
def player (replies : List Reply) : Player Rehearsal :=
  if replies.all fun r => r.failure.isNone && !r.halts then scripted (replies.map Reply.input)
  else staged replies

/-- The failure of a recorder's call. -/
def recorderDown (call : Text) : Option Failure :=
  some [.said ("recorder down: " ++ call)]

/-- A recorder into memory of which the named calls fail: `begin`, `append`, `end`, or `append:`
    with the kind of an entry. -/
def failingRecorder (failing : List Text) : Transcript.Recorder Transcript.Memory where
  start id entry m :=
    if failing.contains (Text.ofString "begin") then (recorderDown "begin", m)
    else Transcript.Memory.start id entry m
  append id kind address detail m :=
    if failing.contains (Text.ofString "append") || failing.contains ("append:" ++ kind) then
      (recorderDown "append", m)
    else Transcript.Memory.append id kind address detail m
  close id outcome m :=
    if failing.contains (Text.ofString "end") then (recorderDown "end", m)
    else Transcript.Memory.close id outcome m

end Rehearsal

end Gamebook
