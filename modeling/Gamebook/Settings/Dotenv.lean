import Gamebook.Failure
import Gamebook.Text.Blank
import Gamebook.Text.Quoted

/-! # Files of variables

A file of variables sets one variable a statement: `NAME=value` or `NAME: value`, with `export` before
it or not. A value goes to the end of its line, up to a comment that stands after a blank, or stands
between quotes, and then it may go on over lines. Between single quotes everything stands for itself;
elsewhere a dollar sign with a name stands for the value of a variable set before it, and between
double quotes a backslash gives the character after it another meaning, or takes it away.
-/

namespace Gamebook.Dotenv

/-- Variables with their values, the last set first. -/
abbrev Variables := List (Text × Text)

/-- Why a file cannot be read. -/
inductive Fault where
  /-- A character that no name may have. -/
  | badName (char : Char) (near : Text)
  /-- Nothing stands where a name should. -/
  | noName
  /-- A quote that is never closed. -/
  | unterminated (line : Text)
  deriving DecidableEq, Repr, Inhabited

/-- What people are told about a fault. -/
def Fault.message : Fault → Text
  | .badName char near =>
    "unexpected character " ++ Text.quoted (String.utf8EncodeChar char) ++
      " in variable name near " ++ near.quoted
  | .noName => "zero length string"
  | .unterminated line => "unterminated quoted value " ++ line

/-- The codes of the blanks within a line. -/
def gapCodes : List Nat :=
  [0x09, 0x0B, 0x0C, 0x0D, 0x20, 0x85, 0xA0]

/-- Whether a rune is a blank within a line. -/
def isGap : Rune → Bool
  | .char c => gapCodes.contains c.toNat
  | .stray _ => false

/-- A text without the blanks at its front. -/
def skipGaps (t : Text) : Text :=
  Rune.encodeAll ((Rune.decode t).dropWhile isGap)

/-- A text whose line ends are all alike. -/
def unifyLineEnds : Text → Text
  | 0x0D :: 0x0A :: rest => 0x0A :: unifyLineEnds rest
  | b :: rest => b :: unifyLineEnds rest
  | [] => []

/-- A text without the blank lines and comments at its front. Nothing is left of a text that holds
    nothing else. -/
def skipComments : (fuel : Nat) → Text → Text
  | 0, _ => []
  | fuel + 1, t =>
    match Rune.encodeAll ((Rune.decode t).dropWhile Rune.isBlank) with
    | 0x23 :: rest => skipComments fuel (rest.dropWhile (· ≠ 0x0A))
    | rest => rest

/-- The codes above those of the first 128 characters that a byte of a name may have: letters and
    numbers, each byte taken as the code of a character. -/
def nameRanges : List (Nat × Nat) :=
  [(0xAA, 0xAA), (0xB2, 0xB3), (0xB5, 0xB5), (0xB9, 0xBA), (0xBC, 0xBE), (0xC0, 0xD6), (0xD8, 0xF6),
   (0xF8, 0xFF)]

/-- Whether a byte may stand in a name. Blanks may stand around a name, so they are let through. -/
def isNameByte (b : UInt8) : Bool :=
  (0x30 ≤ b && b ≤ 0x39) || (0x41 ≤ b && b ≤ 0x5A) || (0x61 ≤ b && b ≤ 0x7A) || b = 0x5F ||
    b = 0x2E || gapCodes.contains b.toNat || Text.inRanges nameRanges b.toNat

/-- Whether a byte stands between a name and its value. -/
def isAssignment (b : UInt8) : Bool :=
  b = 0x3D || b = 0x3A

/-- A statement without the word `export` at its front. -/
def skipExport (t : Text) : Text :=
  let word := Text.ofString "export"
  if word.isPrefixOf t then
    let rest := t.drop word.length
    match Rune.decode rest with
    | first :: _ => if isGap first then skipGaps rest else t
    | [] => t
  else t

/-- A text without the blanks at its end. -/
def trimEnd (t : Text) : Text :=
  Rune.encodeAll ((Rune.decode t).reverse.dropWhile Rune.isBlank).reverse

/-- The name at the front of a statement, and what stands after it. A text that ends before a value
    is assigned has no name: all of it is taken for the value. -/
def cutName (t : Text) : Except Fault (Text × Text) :=
  let t := skipExport (skipGaps t)
  let name := t.takeWhile isNameByte
  match t.drop name.length with
  | [] => if t.isEmpty then .error .noName else .ok ([], skipGaps t)
  | b :: rest =>
    if isAssignment b then .ok (trimEnd name, skipGaps rest)
    else .error (.badName (Char.ofNat b.toNat) t)

/-- Whether a byte may stand in the name of a variable that a value refers to. -/
def isReferenceByte (r : Rune) : Bool :=
  match r with
  | .char c => c.isUpper || c.isDigit || c = '_'
  | .stray _ => false

/-- The runes after `first`, if they start with it, or all of them. -/
def skipRune (first : Char) : List Rune → List Rune
  | .char c :: rest => if c = first then rest else .char c :: rest
  | runes => runes

/-- The name that a reference holds after its dollar sign, and what stands after the reference. -/
def cutReference (runes : List Rune) : Text × List Rune :=
  let runes := skipRune '\x7b' (skipRune '(' runes)
  let name := runes.takeWhile isReferenceByte
  (Rune.encodeAll name, skipRune '\x7d' (runes.drop name.length))

/-- A value with the values of the variables it refers to. A dollar sign after a backslash stands for
    itself, and so does one without a name. -/
def expand (vars : Variables) : (fuel : Nat) → List Rune → List Rune
  | 0, runes => runes
  | fuel + 1, .char '\\' :: .char '$' :: rest =>
    let (_, after) := cutReference rest
    let reference := rest.take (rest.length - after.length)
    .char '$' :: reference ++ expand vars fuel after
  | fuel + 1, .char '$' :: rest =>
    let (name, after) := cutReference rest
    let reference := rest.take (rest.length - after.length)
    if name.isEmpty then .char '$' :: reference ++ expand vars fuel after
    else Rune.decode ((vars.lookup name).getD []) ++ expand vars fuel after
  | fuel + 1, rune :: rest => rune :: expand vars fuel rest
  | _ + 1, [] => []

/-- A value in which `\n` and `\r` are line ends. -/
def breakLines : List Rune → List Rune
  | .char '\\' :: .char c :: rest =>
    if c = 'n' then .char '\n' :: breakLines rest
    else if c = 'r' then .char '\r' :: breakLines rest
    else .char '\\' :: .char c :: breakLines rest
  | .char '\\' :: .stray b :: rest => .char '\\' :: .stray b :: breakLines rest
  | rune :: rest => rune :: breakLines rest
  | [] => []

/-- A value without its backslashes, except before dollar signs. -/
def dropBackslashes : List Rune → List Rune
  | .char '\\' :: rune :: rest =>
    if rune = .char '$' then .char '\\' :: rune :: dropBackslashes rest
    else rune :: dropBackslashes rest
  | rune :: rest => rune :: dropBackslashes rest
  | [] => []

/-- The runes before a comment. A comment starts at a number sign after a blank. -/
def beforeComment : (afterGap : Bool) → List Rune → List Rune
  | _, [] => []
  | afterGap, rune :: rest =>
    if afterGap ∧ rune = .char '#' then [] else rune :: beforeComment (isGap rune) rest

/-- A rune as a character: what is none becomes the replacement character. -/
def whole : Rune → Rune
  | .char c => .char c
  | .stray _ => .char '\uFFFD'

/-- A value that is not between quotes. -/
def bareValue (vars : Variables) (line : Text) : Text :=
  let runes := beforeComment false ((Rune.decode line).map whole)
  let runes := ((runes.dropWhile isGap).reverse.dropWhile isGap).reverse
  Rune.encodeAll (expand vars (runes.length + 1) runes)

/-- What stands before the next quote that no backslash stands before, and what comes after it. -/
def cutQuote (quote : UInt8) : (before : UInt8) → Text → Option (Text × Text)
  | _, [] => none
  | before, b :: rest =>
    if b = quote ∧ before ≠ 0x5C then some ([], rest)
    else (cutQuote quote b rest).map fun (value, rest) => (b :: value, rest)

/-- What stands between quotes, without any quotes at its ends. -/
def unquote (quote : UInt8) (t : Text) : Text :=
  ((t.dropWhile (· = quote)).reverse.dropWhile (· = quote)).reverse

/-- A value between double quotes. -/
def doubleQuoted (vars : Variables) (value : Text) : Text :=
  let runes := dropBackslashes (breakLines (Rune.decode value))
  Rune.encodeAll (expand vars (runes.length + 1) runes)

/-- The value at the front of a text, and what stands after it. -/
def cutValue (vars : Variables) (t : Text) : Except Fault (Text × Text) :=
  let inLine (b : UInt8) : Bool := b ≠ 0x0A && b ≠ 0x0D
  match t with
  | [] => .ok ([], [])
  | quote :: rest =>
    if quote = 0x22 ∨ quote = 0x27 then
      match cutQuote quote quote rest with
      | none => .error (.unterminated (t.takeWhile (· ≠ 0x0A)))
      | some (value, rest) =>
        let value := unquote quote value
        .ok (if quote = 0x22 then doubleQuoted vars value else value, rest)
    else .ok (bareValue vars (t.takeWhile inLine), t.dropWhile inLine)

/-- The variables that statements set after those set before. -/
def readStatements : (fuel : Nat) → Variables → Text → Except Fault Variables
  | 0, vars, _ => .ok vars
  | fuel + 1, vars, t =>
    match skipComments (t.length + 1) t with
    | [] => .ok vars
    | statement => do
      let (name, rest) ← cutName statement
      let (value, rest) ← cutValue vars rest
      readStatements fuel ((name, value) :: vars) rest

/-- The variables that a file sets. Every statement takes at least one byte, so there are no more
    statements than bytes. -/
def parse (t : Text) : Except Fault Variables :=
  let t := unifyLineEnds t
  readStatements (t.length + 1) [] t

end Gamebook.Dotenv
