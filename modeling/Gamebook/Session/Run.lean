import Gamebook.Session

/-! # Playing to the end

A session is played to its end with the answers of a player. After the last answer the player gives
a failure, such as the end of the input, so every run ends.
-/

namespace Gamebook

/-- One answer, given when so many choices are offered. -/
abbrev Answer (σ : Type) := Nat → σ → Except Failure Text × σ

/-- Who answers for the player. -/
structure Player (σ : Type) where
  /-- The answers that are left. -/
  answers : List (Answer σ)
  /-- What comes when no answer is left. -/
  last : Nat → σ → Failure × σ

namespace Play

variable {σ τ : Type} [Crew τ]

/-- Ends the session because no answer came. The end of the input counts as the host's wish. -/
def unanswered (h : Host σ) (cause : Failure) (p : Play σ τ) : Option Failure × Play σ τ :=
  if cause.isEndOfInput ∨ cause.isCalledOff then p.halt cause
  else
    let (stop?, world) := h.halted p.world
    let p := { p with world }
    if stop?.isSome then p.halt cause else p.finish (.because .choiceNotRead cause)

/-- Asks for answers until the session is over. The failure to take one is given back if the session
    is over with it, and else the player is asked again. -/
def attend (h : Host σ) (last : Nat → σ → Failure × σ) :
    List (Answer σ) → Play σ τ → Option Failure × Play σ τ
  | [], p =>
    if p.session.stage ≠ .awaitingChoice then (p.session.ending, p)
    else
      let (cause, w) := last p.session.offers.length p.world
      { p with world := w }.unanswered h cause
  | answer :: rest, p =>
    if p.session.stage ≠ .awaitingChoice then (p.session.ending, p)
    else
      match answer p.session.offers.length p.world with
      | (.error cause, w) => { p with world := w }.unanswered h cause
      | (.ok input, w) =>
        match { p with world := w }.choose h input with
        | (some failure, p) =>
          if p.session.stage = .ended then (some failure, p) else attend h last rest p
        | (none, p) => attend h last rest p

/-- Plays a session from an entry to its end. -/
def run (h : Host σ) (player : Option (Player σ)) (entry : Address) (p : Play σ τ) :
    Option Failure × Play σ τ :=
  match player with
  | none => (some (.ofProblem .noChoiceReader), p)
  | some player =>
    match p.start h entry with
    | (some failure, p) => (some failure, p)
    | (none, p) => p.attend h player.last player.answers

end Play

end Gamebook
