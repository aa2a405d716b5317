import Gamebook.Markup.Token
import Gamebook.Text.Rune

/-! # Places in markup

A cursor stands before the characters that are left and knows its line and column. A line end is a
line feed, a carriage return, both together, or one of the separators of lines and paragraphs.
-/

namespace Gamebook.Markup

/-- A place in a text. -/
structure Cursor where
  rest : List Char
  line : Nat := 0
  column : Nat := 0
  /-- How many characters come before. -/
  index : Nat := 0
  deriving DecidableEq, Repr, Inhabited

/-- Whether a character may stand in markup at all. -/
def isAllowed (c : Char) : Bool :=
  let n := c.toNat
  n = 0x09 || n = 0x0A || n = 0x0D || (0x20 ≤ n && n ≤ 0x7E) || n = 0x85 ||
    (0xA0 ≤ n && n ≤ 0xFFFD) || 0x10000 ≤ n

/-- The characters of a text, if all of them may stand in markup. A mark of the byte order may come
    before them. -/
def chars? (t : Text) : Option (List Char) :=
  let take : Rune → Option Char
    | .char c => if isAllowed c then some c else none
    | .stray _ => none
  match (Rune.decode t).mapM take with
  | some ('\uFEFF' :: rest) => some rest
  | found => found

/-- Whether a character is a space or a tab. -/
def isSpace (c : Char) : Bool :=
  c = ' ' || c = '\t'

/-- Whether a character ends a line. -/
def isBreak (c : Char) : Bool :=
  c = '\n' || c = '\r' || c = '\u0085' || c = '\u2028' || c = '\u2029'

namespace Cursor

/-- The character at a distance. -/
def at? (c : Cursor) (n : Nat) : Option Char :=
  c.rest[n]?

/-- Whether there is a space, a tab, a line end or nothing at a distance. -/
def blankAt (c : Cursor) (n : Nat) : Bool :=
  match c.at? n with
  | none => true
  | some ch => isSpace ch || isBreak ch

/-- Whether the next character is the given one. -/
def starts (c : Cursor) (ch : Char) : Bool :=
  c.at? 0 = some ch

/-- The place after some characters that are no line ends. -/
def skip (c : Cursor) (n : Nat) : Cursor :=
  { c with rest := c.rest.drop n, column := c.column + n, index := c.index + n }

/-- The place after a line end, and what the line end counts for in a scalar. -/
def skipBreak (c : Cursor) : List Char × Cursor :=
  let next (n : Nat) : Cursor :=
    { rest := c.rest.drop n, line := c.line + 1, column := 0, index := c.index + n }
  match c.rest with
  | '\r' :: '\n' :: _ => (['\n'], next 2)
  | ch :: _ => (if ch = '\u2028' ∨ ch = '\u2029' then [ch] else ['\n'], next 1)
  | [] => ([], c)

/-- Whether the cursor stands before three of the given characters and a blank, at the front of a
    line. -/
def atMarker (c : Cursor) (ch : Char) : Bool :=
  c.column = 0 && c.at? 0 = some ch && c.at? 1 = some ch && c.at? 2 = some ch && c.blankAt 3

/-- Whether the cursor stands before the mark of a document's start or end. -/
def atDocument (c : Cursor) : Bool :=
  c.atMarker '-' || c.atMarker '.'

end Cursor

/-- The spaces and line ends between two parts of a scalar. -/
structure Gap where
  /-- The spaces before any line end. -/
  spaces : List Char := []
  /-- The first line end. -/
  firstBreak : Option (List Char) := none
  /-- The other line ends. -/
  moreBreaks : List Char := []
  deriving DecidableEq, Repr, Inhabited

namespace Gap

/-- What a gap counts for: its spaces, or a single line end as a space, or all line ends but the
    first. -/
def folded (g : Gap) : List Char :=
  match g.firstBreak with
  | none => g.spaces
  | some ['\n'] => if g.moreBreaks.isEmpty then [' '] else g.moreBreaks
  | some first => first ++ g.moreBreaks

/-- The gap at a cursor, after a part of it that was read before. Before `indent` columns of a line
    no tab may stand. -/
def read (indent : Nat) : (fuel : Nat) → Gap → Cursor → Except Fault (Gap × Cursor)
  | 0, g, c => .ok (g, c)
  | fuel + 1, g, c =>
    match c.rest with
    | [] => .ok (g, c)
    | ch :: _ =>
      if isSpace ch then
        if g.firstBreak.isSome then
          if ch = '\t' ∧ c.column < indent then .error .tabInIndentation
          else read indent fuel g (c.skip 1)
        else read indent fuel { g with spaces := g.spaces ++ [ch] } (c.skip 1)
      else if isBreak ch then
        let (counts, c) := c.skipBreak
        match g.firstBreak with
        | none => read indent fuel { g with firstBreak := some counts } c
        | some _ => read indent fuel { g with moreBreaks := g.moreBreaks ++ counts } c
      else .ok (g, c)

end Gap

end Gamebook.Markup
