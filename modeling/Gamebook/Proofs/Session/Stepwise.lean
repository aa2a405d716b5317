import Gamebook.Proofs.Session.Endings
import Gamebook.Proofs.Session.Lazy

/-! # A run is made of single calls

Playing a session to its end with a player who gives inputs and then fails is the same as starting
it, choosing the inputs in turn for as long as it waits for one, and ending it if it still does. The
plays at the end are the same altogether, with the world of whatever host, so nothing was shown or
recorded on the way that the single calls would not have shown or recorded. When the player was
asked, and among how many choices, is kept beside the world.
-/

namespace Gamebook

variable {σ : Type}

/-- An input that a player gives when so many choices are offered. -/
abbrev Given (σ : Type) := Nat → σ → Text × σ

def Given.answer (given : Given σ) : Answer σ := fun n w =>
  (.ok (given n w).1, (given n w).2)

/-- Who gives inputs in turn and then fails. -/
def Player.giving (inputs : List (Given σ)) (last : Nat → σ → Failure × σ) : Player σ where
  answers := inputs.map Given.answer
  last := last

namespace Play

variable {h : Host σ} {p : Play σ} {given : Given σ} {last : Nat → σ → Failure × σ}

/-- The play after an input was asked for and chosen, if the session waits for one. -/
def heed (h : Host σ) (p : Play σ) (given : Given σ) : Play σ :=
  if p.session.stage = .awaitingChoice then
    let (input, w) := given p.session.offers.length p.world
    (({ p with world := w } : Play σ).make h (.choose input)).2
  else p

/-- The plays in which inputs are chosen in turn, for as long as the session waits for one. -/
def turns (h : Host σ) : List (Given σ) → Play σ → List (Play σ)
  | [], _ => []
  | given :: rest, p =>
    if p.session.stage = .awaitingChoice then p :: turns h rest (p.heed h given) else []

/-- The play after no input came, with a cause. It counts as called off if the cause goes back to
    the end of the input or to work that was called off, or if the host wants the session to stop;
    the host is asked only if need be. -/
def abandon (h : Host σ) (cause : Failure) (p : Play σ) : Play σ :=
  if cause.isEndOfInput ∨ cause.isCalledOff then
    (p.finish (.because .sessionCancelled cause)).2
  else
    let problem := if (h.halted p.world).1 = none then .choiceNotRead else .sessionCancelled
    ((p.asked h).finish (.because problem cause)).2

/-- The play after the last input: a session that waits for one more is ended. -/
def conclude (h : Host σ) (last : Nat → σ → Failure × σ) (p : Play σ) : Play σ :=
  if p.session.stage = .awaitingChoice then
    let (cause, w) := last p.session.offers.length p.world
    ({ p with world := w } : Play σ).abandon h cause
  else p

theorem heed_of_waiting (waiting : p.session.stage = .awaitingChoice) :
    p.heed h given = (({ p with world := (given p.session.offers.length p.world).2 } : Play σ).choose
      h (given p.session.offers.length p.world).1).2 :=
  if_pos waiting

theorem foldl_heed_of_ne (busy : p.session.stage ≠ .awaitingChoice) (inputs : List (Given σ)) :
    inputs.foldl (heed h) p = p := by
  induction inputs with
  | nil => rfl
  | cons given rest ih => rwa [List.foldl_cons, heed, if_neg busy]

theorem unanswered_snd (h : Host σ) (cause : Failure) (p : Play σ) :
    (p.unanswered h cause).2 = p.abandon h cause := by
  unfold unanswered abandon
  split
  · rfl
  · dsimp only
    cases (h.halted p.world).1 with
    | none => rfl
    | some stop => rfl

theorem attend_giving (inputs : List (Given σ)) :
    (p.attend h last (inputs.map Given.answer)).2 =
      (inputs.foldl (heed h) p).conclude h last := by
  induction inputs generalizing p with
  | nil =>
    rw [List.map_nil, List.foldl_nil, conclude]
    by_cases waiting : p.session.stage = .awaitingChoice
    · rw [attend_nil waiting, if_pos waiting]
      exact unanswered_snd h _ _
    · rw [attend_of_ne h last [] waiting, if_neg waiting]
  | cons given rest ih =>
    rw [List.map_cons, List.foldl_cons]
    by_cases waiting : p.session.stage = .awaitingChoice
    · rw [attend_answered waiting rfl, heed_of_waiting waiting]
      exact ih
    · rw [attend_of_ne h last _ waiting, heed, if_neg waiting, foldl_heed_of_ne waiting, conclude,
        if_neg waiting]

/-- A run is the start, the inputs in turn and the end. -/
theorem run_giving (fresh : p.session.stage = .awaitingEntry) (inputs : List (Given σ))
    (entry : Address) :
    (p.run h (some (.giving inputs last)) entry).2 =
      (inputs.foldl (heed h) (p.start h entry).2).conclude h last := by
  have goes := (start_starting h entry fresh).goes
  rw [run_some]
  split
  · exact attend_giving inputs
  · next failed =>
    -- A start that is answered with a failure has ended the session.
    have ended : (p.start h entry).2.session.stage = .ended :=
      (goes.resolve_right fun going => failed going.2).1
    have busy : (p.start h entry).2.session.stage ≠ .awaitingChoice := by simp [ended]
    rw [foldl_heed_of_ne busy, conclude, if_neg busy]

/-! ## Runs do not end with an invalid choice -/

/-- That a session is in order and did not end with an invalid choice. -/
structure Proper (p : Play σ) : Prop where
  sound : p.view.Sound
  ending : ∀ f, p.session.ending = some f → f.code ≠ .invalidChoice

theorem Proper.make (proper : p.Proper) (h : Host σ) (m : Move) : (p.make h m).2.Proper := by
  by_cases expected : p.session.Expects m
  · obtain ⟨sound, valid, ended⟩ := make_concluded proper.sound h expected
    refine ⟨sound, fun f ending code => ?_⟩
    -- What ended the session is what was answered, and after an invalid choice it would wait.
    have going : (p.make h m).2.session.stage = .awaitingChoice := by
      by_contra busy
      exact busy (valid.mp (.inr ⟨f, (ended busy).trans ending, code⟩))
    have settled := sound.settled
    rw [Session.Settled, show (seen (p.make h m)).2.session.stage = .awaitingChoice from going]
      at settled
    cases settled.1.symm.trans ending
  · obtain ⟨f, same, -⟩ := make_of_not_expects h expected
    rw [same]
    exact proper

theorem Proper.inWorld (proper : p.Proper) (w : σ) : ({ p with world := w } : Play σ).Proper :=
  ⟨proper.sound, proper.ending⟩

theorem Proper.heed (proper : p.Proper) (h : Host σ) (given : Given σ) :
    (p.heed h given).Proper := by
  by_cases waiting : p.session.stage = .awaitingChoice
  · rw [heed_of_waiting waiting]
    exact (proper.inWorld _).make h (.choose _)
  · rwa [Play.heed, if_neg waiting]

theorem Proper.foldl_heed (proper : p.Proper) (h : Host σ) (inputs : List (Given σ)) :
    (inputs.foldl (Play.heed h) p).Proper := by
  induction inputs generalizing p with
  | nil => exact proper
  | cons given rest ih => exact ih (proper.heed h given)

theorem Proper.finish (proper : p.Proper) {f : Failure} (code : f.code ≠ .invalidChoice) :
    (p.finish f).2.Proper := by
  have ended : (p.finish f).2.view = (p.view.finish f).2 := congrArg Prod.snd (seen_finish p f)
  refine ⟨ended ▸ View.sound_finish proper.sound.grounds f, fun g ending => ?_⟩
  have same : (p.finish f).2.session.ending = some f := congrArg (·.session.ending) ended
  cases same.symm.trans ending
  exact code

theorem Proper.conclude (proper : p.Proper) (h : Host σ) (last : Nat → σ → Failure × σ) :
    (p.conclude h last).Proper := by
  unfold Play.conclude
  split
  · dsimp only
    unfold abandon
    split
    · refine (proper.inWorld _).finish ?_
      simp [Problem.code]
    · refine ((proper.inWorld _).inWorld _).finish ?_
      rw [Failure.code_because]
      split <;> simp [Problem.code]
  · exact proper

end Play

/-! ## When the player is asked -/

/-- A host with something beside its world that it leaves alone. -/
def Host.beside (h : Host σ) (ρ : Type) : Host (σ × ρ) where
  halted w := ((h.halted w.1).1, (h.halted w.1).2, w.2)
  read path w := ((h.read path w.1).1, (h.read path w.1).2, w.2)
  tell lines w := ((h.tell lines w.1).1, (h.tell lines w.1).2, w.2)
  offer choices w := ((h.offer choices w.1).1, (h.offer choices w.1).2, w.2)
  complain message w := ((h.complain message w.1).1, (h.complain message w.1).2, w.2)

/-- What a player does when asked, with a note of how many choices there were. -/
def counted {α : Type} (f : Nat → σ → α × σ) : Nat → σ × List Nat → α × σ × List Nat := fun n w =>
  ((f n w.1).1, (f n w.1).2, w.2 ++ [n])

namespace Play

variable {h : Host σ} {p : Play σ} {given : Given σ} {last : Nat → σ → Failure × σ}

/-- The play with notes beside its world. -/
def noted (p : Play σ) (notes : List Nat) : Play (σ × List Nat) :=
  p.inWorld (p.world, notes)

theorem beside_matches (h : Host σ) (R : List Text) {ρ : Type} (notes : ρ) :
    h.Matches R (fun w v => v = (w, notes)) (h.beside ρ) where
  halted := by
    rintro w _ rfl
    exact .intro _ rfl
  read path _ := by
    rintro rfl
    exact .intro _ rfl
  tell lines := by
    rintro rfl
    exact .intro _ rfl
  offer choices := by
    rintro rfl
    exact .intro _ rfl
  complain message := by
    rintro rfl
    exact .intro _ rfl

/-- Moves leave alone what is beside the world. -/
theorem noted_make (h : Host σ) (p : Play σ) (notes : List Nat) (m : Move) :
    (p.noted notes).make (h.beside _) m = ((p.make h m).1, (p.make h m).2.noted notes) := by
  have hosts := beside_matches h (p.sought h m) notes
  have abreast : Abreast (fun w v => v = (w, notes)) (fun _ => Eq) p (p.noted notes) :=
    abreast_inWorld rfl
  cases m with
  | start entry =>
    have same := abreast.start Crew.matches_self hosts (List.Subset.refl _)
    obtain ⟨_, rfl, made⟩ := same.inWorld
    exact made
  | choose input =>
    have same := abreast.choose Crew.matches_self hosts (List.Subset.refl _)
    obtain ⟨_, rfl, made⟩ := same.inWorld
    exact made

theorem noted_finish (p : Play σ) (notes : List Nat) (f : Failure) :
    ((p.noted notes).finish f).2 = (p.finish f).2.noted notes := by
  have abreast : Abreast (fun w v => v = (w, notes)) (fun _ => Eq) p (p.noted notes) :=
    abreast_inWorld rfl
  obtain ⟨_, rfl, same⟩ := (abreast.finish Crew.matches_self f).inWorld
  exact congrArg Prod.snd same

theorem noted_heed (notes : List Nat) :
    (p.noted notes).heed (h.beside _) (counted given) =
      (p.heed h given).noted
        (if p.session.stage = .awaitingChoice then notes ++ [p.session.offers.length] else notes) := by
  by_cases waiting : p.session.stage = .awaitingChoice
  · rw [heed_of_waiting waiting, heed_of_waiting (p := p.noted notes) waiting, if_pos waiting]
    exact congrArg Prod.snd (noted_make h { p with world := _ } _ (.choose _))
  · rw [heed, heed, if_neg waiting, if_neg waiting]
    exact if_neg waiting

/-- The player is asked in every turn. -/
theorem noted_foldl_heed (inputs : List (Given σ)) (notes : List Nat) :
    (inputs.map counted).foldl (heed (h.beside _)) (p.noted notes) =
      (inputs.foldl (heed h) p).noted
        (notes ++ (p.turns h inputs).map (·.session.offers.length)) := by
  induction inputs generalizing p notes with
  | nil => simp [turns]
  | cons given rest ih =>
    rw [List.map_cons, List.foldl_cons, noted_heed, ih, List.foldl_cons, turns]
    by_cases waiting : p.session.stage = .awaitingChoice
    · rw [if_pos waiting, if_pos waiting]
      simp
    · rw [if_neg waiting, if_neg waiting]
      have same : p.heed h given = p := if_neg waiting
      have silent : p.turns h rest = [] := by
        cases rest with
        | nil => rfl
        | cons given rest => exact if_neg waiting
      rw [same, silent]

theorem noted_abandon (cause : Failure) (notes : List Nat) :
    (p.noted notes).abandon (h.beside _) cause = (p.abandon h cause).noted notes := by
  unfold abandon
  split
  · exact noted_finish p notes _
  · exact noted_finish (p.asked h) notes _

/-- The player is asked once more if the session still waits for an input. -/
theorem noted_conclude (notes : List Nat) :
    (p.noted notes).conclude (h.beside _) (counted last) =
      (p.conclude h last).noted
        (notes ++ if p.session.stage = .awaitingChoice then [p.session.offers.length] else []) := by
  unfold conclude
  rw [show (p.noted notes).session = p.session from rfl]
  split
  · exact noted_abandon (p := { p with world := _ }) _ _
  · simp

end Play

/-- A run with a player who gives inputs and then fails comes to an end, with an answer that is why
    the session ended and not an invalid choice. It leaves the play in which single calls result:
    the start, each input for as long as the session waits for one, and the end if it still waits.
    The player is asked once for each input that is chosen, and once more if the session then waits
    for another, each time among the choices on offer. -/
theorem run_is_made_of_calls {p : Play σ} (reachable : p.Reachable)
    (fresh : p.session.stage = .awaitingEntry) (h : Host σ) (inputs : List (Given σ))
    (last : Nat → σ → Failure × σ) (entry : Address) :
    let r := p.run h (some (.giving inputs last)) entry
    let started := (p.make h (.start entry)).2
    let final := inputs.foldl (Play.heed h) started
    let asked := (started.turns h inputs).map (·.session.offers.length) ++
      if final.session.stage = .awaitingChoice then [final.session.offers.length] else []
    r.2.session.stage = .ended ∧
    (∃ f, r.1 = some f ∧ r.2.session.ending = some f ∧ f.code ≠ .invalidChoice) ∧
    r.2 = final.conclude h last ∧
    (p.noted []).run (h.beside _) (some (.giving (inputs.map counted) (counted last))) entry =
      (r.1, r.2.noted asked) := by
  intro r started final asked
  obtain ⟨ended, answer⟩ : Play.Over r := Play.over_run fresh h _ entry
  have made : r.2 = final.conclude h last := Play.run_giving fresh inputs entry
  have proper : p.Proper := by
    refine ⟨reachable.sound, fun f ending => ?_⟩
    have settled := reachable.sound.settled
    rw [Session.Settled, show p.view.session.stage = .awaitingEntry from fresh] at settled
    cases settled.2.2.symm.trans ending
  have final : r.2.Proper := made ▸ ((proper.make h (.start entry)).foldl_heed h inputs).conclude h last
  have settled := final.sound.settled
  rw [Session.Settled, show r.2.view.session.stage = .ended from ended] at settled
  obtain ⟨f, ending⟩ := Option.ne_none_iff_exists'.mp settled.2
  refine ⟨ended, ⟨f, answer.trans ending, ending, final.ending f ending⟩, made, ?_⟩
  obtain ⟨-, answer'⟩ := Play.over_run (p := p.noted []) fresh (h.beside _)
    (.giving (inputs.map counted) (counted last)) entry
  have made' : ((p.noted []).run (h.beside _)
      (some (.giving (inputs.map counted) (counted last))) entry).2 = _ :=
    Play.run_giving (p := p.noted []) fresh (inputs.map counted) entry
  have begun : ((p.noted []).start (h.beside _) entry).2 = started.noted [] :=
    congrArg Prod.snd (Play.noted_make h p [] (.start entry))
  rw [begun, Play.noted_foldl_heed, List.nil_append, Play.noted_conclude, ← made] at made'
  refine Prod.ext ?_ made'
  rw [answer', made', answer]
  rfl

/-- A player gives an input that is turned down, and then the input ends. -/
theorem run_is_made_of_calls_vault :
    let p : Play Unit := ⟨{ id := "v" }, { directory := "/" }, (), []⟩
    let entry : Address := ⟨"a", "m", "s"⟩
    let inputs : List (Given Unit) := [fun _ w => ("7", w)]
    let last : Nat → Unit → Failure × Unit := fun _ w => ([.said "reader", .endOfInput], w)
    let r := p.run Story.vault.host (some (.giving inputs last)) entry
    p.Reachable ∧ p.session.stage = .awaitingEntry ∧ r.2.session.stage = .ended ∧
      r.2 = (inputs.foldl (Play.heed Story.vault.host)
        (p.make Story.vault.host (.start entry)).2).conclude Story.vault.host last ∧
      r.1.map Failure.code = some .cancelled ∧
      ((p.noted []).run (Story.vault.host.beside _)
        (some (.giving (inputs.map counted) (counted last))) entry).2.world.2 = [1, 1] := by
  intro p entry inputs last r
  have reachable : p.Reachable := .fresh "v" 0 {} () (Loader.readFrom_empty _ "/")
  obtain ⟨ended, -, made, noted⟩ :=
    run_is_made_of_calls reachable rfl Story.vault.host inputs last entry
  refine ⟨reachable, rfl, ended, made, by decide +kernel, ?_⟩
  rw [noted]
  decide +kernel

end Gamebook
