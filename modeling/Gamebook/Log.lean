import Gamebook.Text

/-! # Log entries

What a program notes about its own work: a level, a message and named values.
-/

namespace Gamebook.Log

/-- How much an entry matters. -/
inductive Level where
  | debug
  | info
  | warn
  | error
  | dpanic
  | panic
  | fatal
  deriving DecidableEq, Repr, Inhabited

namespace Level

/-- The levels, the least important first. -/
def all : List Level :=
  [.debug, .info, .warn, .error, .dpanic, .panic, .fatal]

/-- The name of a level. -/
def text : Level → Text
  | .debug => "debug"
  | .info => "info"
  | .warn => "warn"
  | .error => "error"
  | .dpanic => "dpanic"
  | .panic => "panic"
  | .fatal => "fatal"

/-- How much a level matters, as a number. -/
def rank : Level → Nat
  | .debug => 0
  | .info => 1
  | .warn => 2
  | .error => 3
  | .dpanic => 4
  | .panic => 5
  | .fatal => 6

end Level

/-- The value of a field. -/
inductive Value where
  | text (t : Text)
  | number (n : Int)
  | flag (b : Bool)
  | texts (ts : List Text)
  deriving DecidableEq, Repr, Inhabited

/-- One entry. -/
structure Entry where
  level : Level
  message : Text
  fields : List (Text × Value) := []
  deriving DecidableEq, Repr, Inhabited

end Gamebook.Log
