/-! # Ranges of character codes

A character property is given by its ranges, in increasing order.
-/

namespace Gamebook.Text

/-- Whether a code lies in one of the ranges, given in increasing order with both ends included. -/
def inRanges : List (Nat × Nat) → Nat → Bool
  | [], _ => false
  | (lo, hi) :: rest, code =>
    if code < lo then false else if code ≤ hi then true else inRanges rest code

end Gamebook.Text
