import Gamebook.Text.Ranges
import Gamebook.Text.Rune

/-! # Blank space

Blanks are the tabs, line ends and form feeds, the space, and every other space or line separator.
`trim` takes them off both ends of a text.
-/

namespace Gamebook

namespace Text

/-- The ranges of blank characters. -/
def blankRanges : List (Nat × Nat) :=
  [(0x09, 0x0D), (0x20, 0x20), (0x85, 0x85), (0xA0, 0xA0), (0x1680, 0x1680), (0x2000, 0x200A),
   (0x2028, 0x2029), (0x202F, 0x202F), (0x205F, 0x205F), (0x3000, 0x3000)]

/-- Whether a character is blank. -/
def isBlank (c : Char) : Bool :=
  inRanges blankRanges c.toNat

end Text

namespace Rune

/-- Whether a rune is a blank character. A stray byte is not. -/
def isBlank : Rune → Bool
  | .char c => Text.isBlank c
  | .stray _ => false

end Rune

namespace Text

/-- A text without the blanks at its ends. -/
def trim (t : Text) : Text :=
  Rune.encodeAll (((Rune.decode t).dropWhile Rune.isBlank).reverse.dropWhile Rune.isBlank).reverse

end Text

end Gamebook
