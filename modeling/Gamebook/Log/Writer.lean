import Gamebook.Disk
import Gamebook.Log.Destination
import Gamebook.Log.Line
import Gamebook.Text.LowerCase

/-! # Writing a log

A log is set up by names: a level below which entries are left out, a form, and a destination. A
level that is not known is complained about and replaced.
-/

namespace Gamebook.Log

/-- How a log is set up. -/
structure Setup where
  level : Text := []
  encoding : Text := []
  output : Text := []
  deriving DecidableEq, Repr, Inhabited

/-- A log that is ready. -/
structure Writer where
  /-- Entries of a lower level are left out. -/
  threshold : Level
  encoding : Encoding
  /-- Where lines go; a file is given by its clean absolute path. -/
  destination : Destination
  deriving DecidableEq, Repr, Inhabited

/-- The level with a name in lower case. -/
def Level.ofName? (name : Text) : Option Level :=
  Level.all.find? fun level => level.text = name

namespace Setup

/-- The level below which entries are left out, and what is to be said if the level is not known. -/
def threshold (s : Setup) : Level × Text :=
  let name := s.level.lower
  if name.isEmpty then (.warn, [])
  else
    match Level.ofName? name with
    | some level => (level, [])
    | none =>
      (.warn, "Invalid log level '" ++ s.level ++ "', using 'warn'. Error: unrecognized level: " ++
        name.quoted ++ "\n")

/-- The form of the lines. Every name but one stands for the form for people. -/
def form (s : Setup) : Encoding :=
  if s.encoding.lower = Text.ofString "json" then .json else .console

/-- The failure to make a log. -/
def failed (output : Text) (cause : Failure) : Failure :=
  .said "logger" :: .said "build" :: .said ("open sink " ++ output.quoted) :: cause

/-- Makes the log ready. A file that is not there is made. -/
def ready (s : Setup) (d : Disk) : Except Failure (Writer × Disk) :=
  let output : Text := if s.output.isEmpty then "stderr" else s.output
  let (threshold, _) := s.threshold
  match Destination.parse output with
  | .error cause => .error (failed output cause)
  | .ok (.file path) =>
    match d.openToAppend path with
    | .error cause => .error (failed output cause)
    | .ok (place, d) => .ok ({ threshold, encoding := s.form, destination := .file place }, d)
  | .ok destination => .ok ({ threshold, encoding := s.form, destination }, d)

end Setup

namespace Writer

/-- Whether entries of a level are written. -/
def admits (w : Writer) (level : Level) : Bool :=
  w.threshold.rank ≤ level.rank

/-- The lines of entries that were made at a time. -/
def lines (w : Writer) (time : Text) (entries : List Entry) : Text :=
  (entries.filter fun e => w.admits e.level).flatMap (w.encoding.line time)

end Writer

end Gamebook.Log
