/-! # Text as bytes

Everything a story, a player or a host supplies is a list of bytes, which need not be UTF-8: file
contents, paths, arguments, messages. A string literal stands for the bytes of its encoding, and
texts are compared and sorted byte by byte.
-/

namespace Gamebook

/-- Text as it arrives and as it is written: bytes, which need not be UTF-8. -/
abbrev Text := List UInt8

namespace Text

/-- The bytes of a string's encoding. -/
def ofString (s : String) : Text :=
  s.toList.flatMap String.utf8EncodeChar

instance : Coe String Text := ⟨ofString⟩

/-- A natural number in decimal. -/
def ofNat (n : Nat) : Text :=
  (Nat.toDigits 10 n).map fun digit => digit.toNat.toUInt8

/-- An integer in decimal, with a minus sign when it is negative. -/
def ofInt : Int → Text
  | .ofNat n => ofNat n
  | .negSucc n => 0x2D :: ofNat (n + 1)

/-- The parts one after the other, with `separator` between neighbours. -/
def join (separator : Text) : List Text → Text
  | [] => []
  | [part] => part
  | part :: parts => part ++ separator ++ join separator parts

/-- The parts between the occurrences of a byte. There is always at least one. -/
def split (separator : UInt8) : Text → List Text
  | [] => [[]]
  | b :: rest =>
    if b = separator then [] :: split separator rest
    else
      match split separator rest with
      | [] => [[b]]
      | part :: parts => (b :: part) :: parts

/-- What stands before and after the first occurrence of a nonempty pattern. -/
def cut (pattern : Text) : Text → Option (Text × Text)
  | [] => none
  | b :: rest =>
    if pattern.isPrefixOf (b :: rest) then some ([], (b :: rest).drop pattern.length)
    else (cut pattern rest).map fun (before, after) => (b :: before, after)

/-- A digit of a hexadecimal numeral, in lower case. -/
def hexDigit (n : Nat) : UInt8 :=
  if n < 10 then (0x30 + n).toUInt8 else (0x57 + n).toUInt8

/-- The last `width` hexadecimal digits of a number. -/
def hex : (width : Nat) → Nat → Text
  | 0, _ => []
  | width + 1, n => hex width (n / 16) ++ [hexDigit (n % 16)]

/-- A text with its capital letters `A` to `Z` in lower case. -/
def lowerAscii (t : Text) : Text :=
  t.map fun b => if 0x41 ≤ b ∧ b ≤ 0x5A then b + 0x20 else b

/-- A text with its letters `a` to `z` in upper case. -/
def upperAscii (t : Text) : Text :=
  t.map fun b => if 0x61 ≤ b ∧ b ≤ 0x7A then b - 0x20 else b

/-- Whether the first text comes before the second: at the first place where they differ it has the
    smaller byte, or it ends there. -/
def precedes : Text → Text → Bool
  | _, [] => false
  | [], _ :: _ => true
  | a :: s, b :: t =>
    if a.toNat < b.toNat then true else if b.toNat < a.toNat then false else precedes s t

/-- A text put into a list in increasing order, before the first text that it precedes. -/
def insertSorted (t : Text) : List Text → List Text
  | [] => [t]
  | s :: rest => if precedes t s then t :: s :: rest else s :: insertSorted t rest

/-- The texts in increasing order of their bytes. -/
def sorted (texts : List Text) : List Text :=
  texts.foldr insertSorted []

end Text

end Gamebook
