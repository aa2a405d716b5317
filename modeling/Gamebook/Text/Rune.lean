import Gamebook.Text

/-! # Characters of a text

A text is read as a list of runes. A rune is a character whose encoding stands there, or a single
stray byte where no encoding does. Writing the runes back gives the text: nothing is lost.
-/

namespace Gamebook

/-- One step through a text. -/
inductive Rune where
  /-- A character, by its encoding. -/
  | char (c : Char)
  /-- A byte at which no character is encoded. -/
  | stray (b : UInt8)
  deriving DecidableEq, Repr, Inhabited

namespace Rune

/-- The bytes a rune stands for. -/
def encode : Rune → Text
  | .char c => String.utf8EncodeChar c
  | .stray b => [b]

/-- The code that the byte at the front announces, read from the bytes that would belong to it. -/
def frontCode (t : Text) : Nat :=
  let byte (i : Nat) : Nat := (t.getD i 0).toNat
  if byte 0 < 0x80 then byte 0
  else if byte 0 < 0xE0 then byte 0 % 32 * 64 + byte 1 % 64
  else if byte 0 < 0xF0 then byte 0 % 16 * 4096 + byte 1 % 64 * 64 + byte 2 % 64
  else byte 0 % 8 * 262144 + byte 1 % 64 * 4096 + byte 2 % 64 * 64 + byte 3 % 64

/-- The character whose encoding stands at the front of a text, if one does. Codes written with
    too many bytes, halves of surrogate pairs and codes beyond the last character encode to other
    bytes, so they are refused. -/
def frontChar? (t : Text) : Option Char :=
  let c := Char.ofNat (frontCode t)
  if (String.utf8EncodeChar c).isPrefixOf t then some c else none

/-- The runes of a text after `skip` of its bytes. -/
def decodeFrom : (skip : Nat) → Text → List Rune
  | _, [] => []
  | skip + 1, _ :: rest => decodeFrom skip rest
  | 0, b :: rest =>
    match frontChar? (b :: rest) with
    | some c => .char c :: decodeFrom ((String.utf8EncodeChar c).length - 1) rest
    | none => .stray b :: decodeFrom 0 rest

/-- The runes of a text. -/
def decode (t : Text) : List Rune :=
  decodeFrom 0 t

/-- The text that a list of runes stands for. -/
def encodeAll (rs : List Rune) : Text :=
  rs.flatMap encode

end Rune

end Gamebook
