import Gamebook.Text.Printable
import Gamebook.Text.Rune

/-! # Quoted text

Text in messages stands between quotes. Printable characters are written as they are, the quote
and the backslash after a backslash, the usual control characters by a letter, and everything else
by its code, so no two texts are quoted alike.
-/

namespace Gamebook

namespace Rune

/-- How a rune is written between quotes of the given kind. -/
def escaped (quote : Char) : Rune → Text
  | .stray b => "\\x" ++ Text.hex 2 b.toNat
  | .char c =>
    if c = quote ∨ c = '\\' then 0x5C :: String.utf8EncodeChar c
    else if Text.isPrintable c then String.utf8EncodeChar c
    else if c = '\x07' then "\\a"
    else if c = '\x08' then "\\b"
    else if c = '\x0C' then "\\f"
    else if c = '\n' then "\\n"
    else if c = '\r' then "\\r"
    else if c = '\t' then "\\t"
    else if c = '\x0B' then "\\v"
    else if c.toNat < 0x80 then "\\x" ++ Text.hex 2 c.toNat
    else if c.toNat < 0x10000 then "\\u" ++ Text.hex 4 c.toNat
    else "\\U" ++ Text.hex 8 c.toNat

/-- A rune between single quotes. A stray byte shows as the replacement character. -/
def quoted : Rune → Text
  | .stray _ => "'�'"
  | .char c => "'" ++ escaped '\'' (.char c) ++ "'"

end Rune

namespace Text

/-- A text between double quotes. -/
def quoted (t : Text) : Text :=
  "\"" ++ (Rune.decode t).flatMap (Rune.escaped '"') ++ "\""

end Text

end Gamebook
