import Gamebook.Log
import Gamebook.Text.Rune

/-! # Lines of a log

An entry is written as a line, in one of two forms: for people, the time, the level and the message
with tabs between them, and then the fields as an object; for programs, one object with everything in
it. Values are written so that they stay on the line.
-/

namespace Gamebook

/-- How entries are written. -/
inductive Log.Encoding where
  /-- For people. -/
  | console
  /-- For programs. -/
  | json
  deriving DecidableEq, Repr, Inhabited

/-- How a rune is written between double quotes in a log. -/
def Rune.logged : Rune → Text
  | .stray _ => "\\ufffd"
  | .char c =>
    if c = '"' ∨ c = '\\' then 0x5C :: String.utf8EncodeChar c
    else if c = '\n' then "\\n"
    else if c = '\r' then "\\r"
    else if c = '\t' then "\\t"
    else if c.toNat < 0x20 then "\\u" ++ Text.hex 4 c.toNat
    else String.utf8EncodeChar c

namespace Log

/-- A text between double quotes. -/
def quotedText (t : Text) : Text :=
  "\"" ++ (Rune.decode t).flatMap Rune.logged ++ "\""

namespace Encoding

/-- What stands between two values. -/
def comma : Encoding → Text
  | .console => ", "
  | .json => ","

/-- What stands between a name and its value. -/
def colon : Encoding → Text
  | .console => ": "
  | .json => ":"

/-- How a value is written. -/
def value (e : Encoding) : Value → Text
  | .text t => quotedText t
  | .number n => Text.ofInt n
  | .flag true => "true"
  | .flag false => "false"
  | .texts ts => "[" ++ Text.join e.comma (ts.map quotedText) ++ "]"

/-- How a field is written. -/
def field (e : Encoding) (name : Text) (v : Value) : Text :=
  quotedText name ++ e.colon ++ e.value v

/-- How fields are written in an object. -/
def object (e : Encoding) (fields : List (Text × Value)) : Text :=
  "\x7b" ++ Text.join e.comma (fields.map fun (name, v) => e.field name v) ++ "\x7d"

/-- The line of an entry that was made at a time. -/
def line (e : Encoding) (time : Text) (entry : Entry) : Text :=
  let level := entry.level.text.upperAscii
  match e with
  | .console =>
    let fields : Text := if entry.fields.isEmpty then [] else "\t" ++ e.object entry.fields
    time ++ "\t" ++ level ++ "\t" ++ entry.message ++ fields ++ "\n"
  | .json =>
    let head : List (Text × Value) :=
      [("level", .text level), ("timestamp", .text time), ("msg", .text entry.message)]
    e.object (head ++ entry.fields) ++ "\n"

end Encoding

end Log

end Gamebook
