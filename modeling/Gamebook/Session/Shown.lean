import Gamebook.Session

/-! # What a session shows

Everything that comes from a session to its outside, as plain data.
-/

namespace Gamebook

/-- Something that came to the outside. -/
inductive Shown where
  | lines (lines : List Text)
  | choices (choices : List Choice)
  | complaint (message : Text)
  /-- The player was asked to choose among so many choices. -/
  | asked (count : Nat)
  deriving DecidableEq, Repr, Inhabited

end Gamebook
