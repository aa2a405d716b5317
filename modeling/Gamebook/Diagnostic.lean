import Gamebook.Failure

/-! # Diagnostics

What reading a source found, in the order in which it was found. Errors keep a story from being
played; warnings do not.
-/

namespace Gamebook

/-- How serious a diagnostic is. -/
inductive Severity where
  | error
  | warning
  /-- Neither of the two. -/
  | unknown
  deriving DecidableEq, Repr, Inhabited

namespace Severity

/-- The severity with the given number. -/
def ofNumber (n : Int) : Severity :=
  (numbered? [.error, .warning] n).getD .unknown

/-- The name of a severity. -/
def text : Severity → Text
  | .error => "error"
  | .warning => "warning"
  | .unknown => "unknown"

end Severity

/-- One finding in a source. -/
structure Diagnostic where
  severity : Severity
  problem : Problem
  file : Text
  pos : Pos
  deriving DecidableEq, Repr, Inhabited

namespace Diagnostic

/-- Where the finding is. -/
def place (d : Diagnostic) : Place :=
  Place.ofPos d.file d.pos

/-- A finding on one line. -/
def text (d : Diagnostic) : Text :=
  d.place.text ++ ": " ++ d.severity.text ++ ": " ++ d.problem.message

/-- A finding as a failure. -/
def failure (d : Diagnostic) : Failure :=
  .ofReport { problem := d.problem, place := d.place }

/-- The errors among the findings. -/
def errors (ds : List Diagnostic) : List Diagnostic :=
  ds.filter fun d => d.severity = .error

/-- The warnings among the findings. -/
def warnings (ds : List Diagnostic) : List Diagnostic :=
  ds.filter fun d => d.severity = .warning

/-- Whether there is an error among the findings. -/
def hasErrors (ds : List Diagnostic) : Bool :=
  ds.any fun d => d.severity = .error

/-- The first error, which says how many more there are. -/
def failure? (ds : List Diagnostic) : Option Failure :=
  match errors ds with
  | [] => none
  | [d] => some d.failure
  | d :: more => some { d with problem := .andMore d.problem more.length }.failure

/-- The findings, a line each. -/
def textAll (ds : List Diagnostic) : Text :=
  ds.flatMap fun d => d.text ++ "\n"

end Diagnostic

end Gamebook
