import Gamebook.Problem

/-! # Failures

A failure is a chain of causes, outermost first. Some links are problems with a code, a place and
the address of a scene; the others are what a host or the outside world said. Questions about a
failure look along the whole chain.
-/

namespace Gamebook

/-- A problem with what is known about where it arose. -/
structure Report where
  problem : Problem
  place : Place := {}
  /-- The address of the scene involved, as text. -/
  address : Text := []
  deriving DecidableEq, Repr, Inhabited

/-- One cause in a chain. -/
inductive Link where
  /-- Words of a host or of the outside world. -/
  | said (text : Text)
  /-- There is no more input. -/
  | endOfInput
  /-- The host has called the work off. -/
  | calledOff
  /-- The time for the work is over. -/
  | outOfTime
  /-- A file does not exist, in the words of whoever looked for it. -/
  | missing (text : Text)
  /-- A problem. -/
  | report (r : Report)
  deriving DecidableEq, Repr, Inhabited

namespace Link

/-- What a link adds to the text of a failure. -/
def text : Link → Text
  | .said text => text
  | .endOfInput => "EOF"
  | .calledOff => "context canceled"
  | .outOfTime => "context deadline exceeded"
  | .missing text => text
  | .report r =>
    if r.place.isUnknown then r.problem.message else r.place.text ++ ": " ++ r.problem.message

/-- The problem of a link. -/
def report? : Link → Option Report
  | .report r => some r
  | _ => none

end Link

/-- A chain of causes, outermost first. -/
abbrev Failure := List Link

namespace Failure

/-- A failure for a problem that nothing else caused. -/
def ofReport (r : Report) : Failure :=
  [.report r]

/-- A failure for a problem of which nothing more is known. -/
def ofProblem (p : Problem) : Failure :=
  [.report { problem := p }]

/-- A problem caused by another failure. -/
def because (p : Problem) (cause : Failure) : Failure :=
  .report { problem := p } :: cause

/-- What people are told: every cause in turn. -/
def text (f : Failure) : Text :=
  Text.join ": " (f.map Link.text)

/-- The problems in a chain, outermost first. -/
def reports (f : Failure) : List Report :=
  f.filterMap Link.report?

/-- The outermost problem. -/
def report? (f : Failure) : Option Report :=
  f.findSome? Link.report?

/-- The code of the outermost problem. -/
def code (f : Failure) : Code :=
  match f.report? with
  | some r => r.problem.code
  | none => .unknown

/-- Whether some problem in the chain has the code. -/
def hasCode (f : Failure) (code : Code) : Bool :=
  f.reports.any fun r => r.problem.code = code

/-- The titles of the families that the chain has a problem of. -/
def families (f : Failure) : List Text :=
  (Code.families.filter fun (code, _) => f.hasCode code).map Prod.snd

/-- Whether the host ended the session: it called it off or closed its input. -/
def isHostTermination (f : Failure) : Bool :=
  f.hasCode .cancelled

/-- Whether the chain goes back to the end of the input. -/
def isEndOfInput (f : Failure) : Bool :=
  f.contains .endOfInput

/-- Whether the chain goes back to work that was called off. -/
def isCalledOff (f : Failure) : Bool :=
  f.contains .calledOff

/-- Whether the chain goes back to a file that does not exist. -/
def isMissingFile (f : Failure) : Bool :=
  f.any fun
    | .missing _ => true
    | _ => false

/-- The chain from its outermost problem on, that problem placed where it has no place yet. A chain
    without a problem, or whose problem has a place, stays as it is. -/
def placed (place : Place) (f : Failure) : Failure :=
  match f.dropWhile fun link => link.report?.isNone with
  | .report r :: causes => if r.place.isUnknown then .report { r with place } :: causes else f
  | _ => f

end Failure

end Gamebook
