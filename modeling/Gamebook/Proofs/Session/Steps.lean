import Gamebook.Session.Run
import Gamebook.Proofs.Session.View
import Mathlib.Logic.Relation

/-! # Calls in turn

Whoever uses a session starts it, answers it, calls it off or lets a player answer to its end. What
moves and endings keep is kept by all of these, and so by any number of them in any order; the loop
that asks a player for answers is gone through here once.
-/

namespace Gamebook

/-- A call on a session, or a change of the world between two calls. -/
inductive Deed (σ : Type) where
  | move (m : Move)
  | run (player : Option (Player σ)) (entry : Address)
  | cancel
  | meanwhile (change : σ → σ)

namespace Play

def perform {σ τ : Type} [c : Crew τ] (h : Host σ) (p : Play σ τ) :
    Deed σ → Option Failure × Play σ τ
  | .move m => p.make h m
  | .run player entry => p.run h player entry
  | .cancel => (none, p.cancel)
  | .meanwhile change => (none, { p with world := change p.world })

/-- The answers to calls in turn, each with the play after it. -/
def performAll {σ τ : Type} [c : Crew τ] (h : Host σ) (p : Play σ τ) :
    List (Deed σ) → List (Option Failure × Play σ τ)
  | [] => []
  | d :: rest => p.perform h d :: (p.perform h d).2.performAll h rest

variable {σ : Type}

/-- What can happen to a play. Each call may have a host of its own, and in between others may use
    the loader. -/
inductive Step : Play σ → Play σ → Prop where
  | perform (h : Host σ) (p : Play σ) (d : Deed σ) : Step p (p.perform h d).2
  | shared (p : Play σ) (l : Loader) : Step p { p with loader := l }

/-- That whatever can happen leads from one play to another. -/
abbrev Leads : Play σ → Play σ → Prop :=
  Relation.ReflTransGen Step

/-- That moves and endings keep a property of plays, on which the world has no bearing. -/
structure Kept (Q : Play σ → Prop) : Prop where
  make : ∀ {p : Play σ} (h : Host σ) (m : Move), Q p → Q (p.make h m).2
  finish : ∀ {p : Play σ} (f : Failure), p.session.stage ≠ .ended → Q p → Q (p.finish f).2
  world : ∀ {p : Play σ} (w : σ), Q p → Q { p with world := w }

/-- A run is a start, after which the player is asked unless the start failed. -/
theorem run_some (h : Host σ) (player : Player σ) (entry : Address) (p : Play σ) :
    p.run h (some player) entry =
      if (p.start h entry).1 = none then
        (p.start h entry).2.attend h player.last player.answers
      else p.start h entry := by
  unfold run
  rcases p.start h entry with ⟨- | failure, after⟩
  · rfl
  · rfl

theorem ongoing_of_waiting {p : Play σ} (waiting : p.session.stage = .awaitingChoice) :
    p.session.stage ≠ .ended := by
  rw [waiting]
  decide

/-! ## The loop that asks for answers -/

section Attend

variable {h : Host σ} {last : Nat → σ → Failure × σ} {p : Play σ} {answer : Answer σ}
  {rest : List (Answer σ)} {w : σ}

/-- A player is not asked unless the session waits for a choice. -/
theorem attend_of_ne (h : Host σ) (last : Nat → σ → Failure × σ) (answers : List (Answer σ))
    (busy : p.session.stage ≠ .awaitingChoice) :
    p.attend h last answers = (p.session.ending, p) := by
  cases answers with
  | nil => exact if_pos busy
  | cons answer rest => exact if_pos busy

theorem attend_nil (waiting : p.session.stage = .awaitingChoice) :
    p.attend h last [] =
      ({ p with world := (last p.session.offers.length p.world).2 } : Play σ).unanswered h
        (last p.session.offers.length p.world).1 :=
  if_neg (not_not.mpr waiting)

theorem attend_unanswered {cause : Failure} (waiting : p.session.stage = .awaitingChoice)
    (given : answer p.session.offers.length p.world = (.error cause, w)) :
    p.attend h last (answer :: rest) = ({ p with world := w } : Play σ).unanswered h cause := by
  rw [attend, if_neg (not_not.mpr waiting), given]

/-- An input that ends a session is answered with the failure that ended it. -/
theorem choose_ending {input : Text} (waiting : p.session.stage = .awaitingChoice)
    (ended : (p.choose h input).2.session.stage = .ended) :
    (p.choose h input).1 = (p.choose h input).2.session.ending := by
  suffices answered : ∀ r : Option Failure × View, p.view.Choosing h input p.world r →
      r.2.session.stage = .ended → r.1 = r.2.session.ending from
    answered _ (choose_choosing h input waiting) ended
  intro r choosing finished
  cases choosing with
  | entering picked kept ok rest =>
    cases rest with
    | awaiting something whole => cases finished
    | _ => rfl
  | rejected unpicked few =>
    rw [show (p.view.mistake input).session.stage = .awaitingChoice from waiting] at finished
    cases finished
  | _ => rfl

/-- So the loop can go on with every input: that the session is over with it makes no difference to
    what the player is told. -/
theorem attend_answered {input : Text} (waiting : p.session.stage = .awaitingChoice)
    (given : answer p.session.offers.length p.world = (.ok input, w)) :
    p.attend h last (answer :: rest) =
      (({ p with world := w } : Play σ).choose h input).2.attend h last rest := by
  have ending := @choose_ending σ h { p with world := w } input waiting
  rw [attend, if_neg (not_not.mpr waiting), given]
  dsimp only
  generalize ({ p with world := w } : Play σ).choose h input = chosen at ending ⊢
  obtain ⟨- | failure, q⟩ := chosen
  · rfl
  · dsimp only at ending ⊢
    split
    · next ended => rw [attend_of_ne h last rest (by rw [ended]; decide), ending ended]
    · rfl

/-- Induction along the loop: it is over with a session that does not wait for a choice, with the
    last answer or with one that fails, and goes on after an input. -/
@[elab_as_elim]
theorem attend_induct (h : Host σ) {motive : Play σ → List (Answer σ) → Prop}
    (done : ∀ (p : Play σ) answers, p.session.stage ≠ .awaitingChoice → motive p answers)
    (last : ∀ p : Play σ, p.session.stage = .awaitingChoice → motive p [])
    (failed : ∀ (p : Play σ) answer rest cause w, p.session.stage = .awaitingChoice →
      answer p.session.offers.length p.world = (.error cause, w) → motive p (answer :: rest))
    (given : ∀ (p : Play σ) answer rest input w, p.session.stage = .awaitingChoice →
      answer p.session.offers.length p.world = (.ok input, w) →
      motive (({ p with world := w } : Play σ).choose h input).2 rest → motive p (answer :: rest))
    (p : Play σ) (answers : List (Answer σ)) : motive p answers := by
  induction answers generalizing p with
  | nil =>
    by_cases waiting : p.session.stage = .awaitingChoice
    · exact last p waiting
    · exact done p [] waiting
  | cons answer rest ih =>
    by_cases waiting : p.session.stage = .awaitingChoice
    · rcases answered : answer p.session.offers.length p.world with ⟨cause | input, w⟩
      · exact failed p answer rest cause w waiting answered
      · exact given p answer rest input w waiting answered (ih _)
    · exact done p _ waiting

end Attend

namespace Kept

variable {Q : Play σ → Prop} (kept : Kept Q) {p : Play σ} (h : Host σ)
include kept

theorem cancel (before : Q p) : Q p.cancel := by
  unfold Play.cancel
  split
  · exact before
  · next ongoing => exact kept.finish _ ongoing before

theorem unanswered (cause : Failure) (ongoing : p.session.stage ≠ .ended) (before : Q p) :
    Q (p.unanswered h cause).2 := by
  unfold Play.unanswered
  split
  · exact kept.finish _ ongoing before
  · dsimp only
    split
    · exact kept.finish _ ongoing (kept.world _ before)
    · exact kept.finish _ ongoing (kept.world _ before)

theorem attend (last : Nat → σ → Failure × σ) (answers : List (Answer σ)) (before : Q p) :
    Q (p.attend h last answers).2 := by
  induction p, answers using attend_induct h with
  | done p answers busy =>
    rw [attend_of_ne h last answers busy]
    exact before
  | last p waiting =>
    rw [attend_nil waiting]
    exact kept.unanswered h _ (ongoing_of_waiting waiting) (kept.world _ before)
  | failed p answer rest cause w waiting answered =>
    rw [attend_unanswered waiting answered]
    exact kept.unanswered h _ (ongoing_of_waiting waiting) (kept.world _ before)
  | given p answer rest input w waiting answered ih =>
    rw [attend_answered waiting answered]
    exact ih (kept.make h (.choose input) (kept.world w before))

theorem run (player : Option (Player σ)) (entry : Address) (before : Q p) :
    Q (p.run h player entry).2 := by
  have started : Q (p.start h entry).2 := kept.make h (.start entry) before
  cases player with
  | none => exact before
  | some player =>
    rw [run_some]
    split
    · exact kept.attend h _ _ started
    · exact started

theorem perform (d : Deed σ) (before : Q p) : Q (p.perform h d).2 := by
  cases d with
  | move m => exact kept.make h m before
  | run player entry => exact kept.run h player entry before
  | cancel => exact kept.cancel before
  | meanwhile change => exact kept.world _ before

theorem leads (shared : ∀ {p : Play σ} (l : Loader), Q p → Q { p with loader := l })
    {q : Play σ} (leads : p.Leads q) (before : Q p) : Q q := by
  induction leads with
  | refl => exact before
  | tail _ step ih =>
    cases step with
    | perform h p d => exact kept.perform h d ih
    | shared p l => exact shared l ih

end Kept

end Play

end Gamebook
