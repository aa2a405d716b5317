import Gamebook.Text.Rune

/-! # Positions in a source

A position is a line and a column, both counted from one; a column counts runes. A place is a
position in a named file, as messages show it.
-/

namespace Gamebook

/-- A line and a column of a source. -/
structure Pos where
  line : Int
  column : Int
  deriving DecidableEq, Repr, Inhabited

namespace Pos

/-- The position of the first rune of a source. -/
def start : Pos := ⟨1, 1⟩

/-- The position just past a rune: a line feed starts the next line. -/
def after (p : Pos) (r : Rune) : Pos :=
  if r = .char '\n' then ⟨p.line + 1, 1⟩ else ⟨p.line, p.column + 1⟩

/-- The position just past several runes. -/
def afterAll (p : Pos) (rs : List Rune) : Pos :=
  rs.foldl after p

/-- A position as `line:column`. -/
def text (p : Pos) : Text :=
  Text.ofInt p.line ++ ":" ++ Text.ofInt p.column

end Pos

/-- A position in a file. Line zero leaves the line open, and an empty name the file. -/
structure Place where
  file : Text := []
  line : Int := 0
  column : Int := 0
  deriving DecidableEq, Repr, Inhabited

namespace Place

/-- The place of a position in a file. -/
def ofPos (file : Text) (p : Pos) : Place :=
  ⟨file, p.line, p.column⟩

/-- Whether neither file nor line is known. -/
def isUnknown (p : Place) : Bool :=
  p.file.isEmpty && p.line = 0

/-- A place as `file:line:column`, without the parts that are not known. -/
def text (p : Place) : Text :=
  if p.line = 0 then p.file
  else if p.file.isEmpty then Pos.text ⟨p.line, p.column⟩
  else p.file ++ ":" ++ Pos.text ⟨p.line, p.column⟩

end Place

end Gamebook
