import Gamebook.Text

/-! # Names for sessions

A session that nobody named gets a name made of sixteen bytes drawn at random: their hexadecimal
digits in five groups, with six of the bits fixed to tell how the name was made.
-/

namespace Gamebook.Session

/-- The bytes of a name with the bits fixed that tell how it was made. -/
def marked (bytes : List UInt8) : List UInt8 :=
  bytes.mapIdx fun i b =>
    if i = 6 then (0x40 + b.toNat % 16).toUInt8
    else if i = 8 then (0x80 + b.toNat % 64).toUInt8
    else b

/-- The digits of some bytes. -/
def digits (bytes : List UInt8) : Text :=
  bytes.flatMap fun b => Text.hex 2 b.toNat

/-- The name made of sixteen bytes. -/
def nameOf (bytes : List UInt8) : Text :=
  let bytes := marked bytes
  let group (first count : Nat) : Text := digits ((bytes.drop first).take count)
  Text.join "-" [group 0 4, group 4 2, group 6 2, group 8 2, group 10 6]

end Gamebook.Session
