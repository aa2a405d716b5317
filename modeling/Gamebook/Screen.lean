import Gamebook.Session

/-! # Plain text on a screen

A session is shown as lines of plain text, each written in one go: the lines of a scene and a blank
line after them, one line for each choice with its number, one line for a complaint. Nothing more of
what was to be shown is written after a write that failed.
-/

namespace Gamebook

/-- Where lines are written. -/
structure Sink where
  /-- What has been written. -/
  text : Text := []
  /-- How many writes there have been, those that failed included. -/
  writes : Nat := 0
  /-- The write that fails; zero for none. -/
  failAt : Nat := 0
  /-- Other writes that fail, by their numbers, and why they do. -/
  losses : List (Nat × Failure) := []
  deriving DecidableEq, Repr, Inhabited

namespace Sink

/-- Writes a text. -/
def write (t : Text) (s : Sink) : Option Failure × Sink :=
  let s := { s with writes := s.writes + 1 }
  if s.writes = s.failAt then (some [.said "pipe closed"], s)
  else
    match s.losses.lookup s.writes with
    | some cause => (some cause, s)
    | none => (none, { s with text := s.text ++ t })

/-- Writes texts in turn until a write fails. -/
def writeAll : List Text → Sink → Option Failure × Sink
  | [], s => (none, s)
  | t :: rest, s =>
    match s.write t with
    | (none, s) => writeAll rest s
    | failed => failed

end Sink

namespace Screen

/-- The byte that ends a line. -/
def newline : Text := "\n"

/-- The lines of a scene, with a blank line after them. -/
def lines (flavortext : List Text) : List Text :=
  flavortext.map (· ++ newline) ++ [newline]

/-- A choice with its number. -/
def choice (c : Choice) : Text :=
  "[" ++ Text.ofInt c.index ++ "] " ++ c.label ++ newline

/-- Choices, one a line. -/
def choices (cs : List Choice) : List Text :=
  cs.map choice

/-- Why an input is not accepted. -/
def complaint (message : Text) : List Text :=
  [Text.ofString "! " ++ message ++ newline]

end Screen

end Gamebook
