import Gamebook.Text

/-! # Integers

An integer is written with an optional sign and one or more digits `0` to `9`. Where a base may be
chosen, the digits go on with letters, `0b`, `0o`, `0` and `0x` announce the bases two, eight and
sixteen, and underscores may stand between digits.
-/

namespace Gamebook.Text

/-- Whether a byte is a digit `0` to `9`. -/
def isDecimal (b : UInt8) : Bool :=
  0x30 ≤ b && b ≤ 0x39

/-- The number that a list of digits spells, most significant first. -/
def decimalValue (digits : Text) : Nat :=
  digits.foldl (fun value digit => 10 * value + (digit.toNat - 0x30)) 0

/-- The number spelled by one or more digits and nothing else. -/
def toNat? (t : Text) : Option Nat :=
  if t ≠ [] ∧ t.all isDecimal then some (decimalValue t) else none

/-- The integer spelled by an optional sign and one or more digits, of any size. -/
def toInt? : Text → Option Int
  | 0x2B :: digits => (toNat? digits).map Int.ofNat
  | 0x2D :: digits => (toNat? digits).map fun n => -Int.ofNat n
  | digits => (toNat? digits).map Int.ofNat

/-- Whether an integer fits in a signed word of the given width. -/
def fitsWord (width : Nat) (i : Int) : Bool :=
  let bound : Int := Nat.pow 2 (width - 1)
  i < bound && -bound ≤ i

/-- Why a text is not an integer. -/
inductive NumeralFault where
  /-- It does not spell an integer. -/
  | malformed
  /-- It spells an integer that does not fit. -/
  | outOfRange
  deriving DecidableEq, Repr, Inhabited

/-- The letters `A` to `Z` in lower case, every other byte as it is. -/
def lowerByte (b : UInt8) : UInt8 :=
  if 0x41 ≤ b ∧ b ≤ 0x5A then b + 0x20 else b

/-- The value of a digit: `0` to `9`, then `a` to `z` in either case. -/
def digitValue? (b : UInt8) : Option Nat :=
  let b := lowerByte b
  if isDecimal b then some (b.toNat - 0x30)
  else if 0x61 ≤ b ∧ b ≤ 0x7A then some (b.toNat - 0x57)
  else none

/-- The number below `limit` that digits spell after the digits of `value`. The first digit at which
    it cannot go on decides what is wrong. -/
def readDigits (base limit : Nat) (underscores : Bool) : (value : Nat) → Text → Except NumeralFault Nat
  | value, [] => .ok value
  | value, b :: rest =>
    if underscores ∧ b = 0x5F then readDigits base limit underscores value rest
    else
      match digitValue? b with
      | none => .error .malformed
      | some digit =>
        if base ≤ digit then .error .malformed
        else if limit ≤ base * value + digit then .error .outOfRange
        else readDigits base limit underscores (base * value + digit) rest

/-- The base that the front of a numeral announces, and the digits after it. -/
def announcedBase : Text → Nat × Text
  | 0x30 :: mark :: digit :: rest =>
    let mark' := lowerByte mark
    if mark' = 0x62 then (2, digit :: rest)
    else if mark' = 0x6F then (8, digit :: rest)
    else if mark' = 0x78 then (16, digit :: rest)
    else (8, mark :: digit :: rest)
  | 0x30 :: rest => (8, rest)
  | digits => (10, digits)

/-- Whether every underscore stands between two digits, given whether a digit comes before. -/
def dividesDigits (hexadecimal : Bool) : (digitBefore : Bool) → Text → Bool
  | _, [] => true
  | _, [b] => b ≠ 0x5F
  | digitBefore, b :: c :: rest =>
    let isDigit (b : UInt8) : Bool :=
      isDecimal b || (hexadecimal && 0x61 ≤ lowerByte b && lowerByte b ≤ 0x66)
    if b = 0x5F then digitBefore && isDigit c && dividesDigits hexadecimal false (c :: rest)
    else dividesDigits hexadecimal (isDigit b) (c :: rest)

/-- Whether the underscores of a numeral are where they may be: between digits, or between the mark
    of a base and a digit. -/
def underscoresFit : Text → Bool
  | 0x30 :: mark :: rest =>
    let mark' := lowerByte mark
    if mark' = 0x62 ∨ mark' = 0x6F ∨ mark' = 0x78 then dividesDigits (mark' = 0x78) true rest
    else dividesDigits false false (0x30 :: mark :: rest)
  | digits => dividesDigits false false digits

/-- The number of at most `width` bits that a text without a sign spells, in the base that it
    announces, or in the given one. -/
def parseNat (base : Option Nat) (width : Nat) (t : Text) : Except NumeralFault Nat :=
  if t.isEmpty then .error .malformed
  else
    match base with
    | some base => readDigits base (Nat.pow 2 width) false 0 t
    | none =>
      let (base, digits) := announcedBase t
      match readDigits base (Nat.pow 2 width) true 0 digits with
      | .error fault => .error fault
      | .ok n => if t.contains 0x5F ∧ ¬ underscoresFit t then .error .malformed else .ok n

/-- The integer in a signed word of the given width that a text spells, in the base that it
    announces, or in the given one. -/
def parseInt (base : Option Nat) (width : Nat) (t : Text) : Except NumeralFault Int :=
  let (negative, digits) := match t with
    | 0x2B :: digits => (false, digits)
    | 0x2D :: digits => (true, digits)
    | digits => (false, digits)
  match parseNat base width digits with
  | .error fault => .error fault
  | .ok n =>
    let i : Int := if negative then -n else n
    if fitsWord width i then .ok i else .error .outOfRange

end Gamebook.Text
