import Gamebook.Proofs.Session.Endings
import Gamebook.Proofs.Session.Lazy
import Gamebook.Proofs.Session.Refinement
import Gamebook.Session.Shown

/-! # Mistakes leave no trace

An invalid choice is counted, told to transcripts and followed by the same choices once more. What
is left of a view without the count and without what was told (`View.forgiven`) evolves by itself:
with a host that serves a story, the forgiven view after an input depends on nothing but the input
and the forgiven view before it. So inputs that are turned down can be left out of a run, which is
then compared with the whole run by induction over the inputs. What is shown meanwhile is kept
beside the world of the host.
-/

namespace Gamebook

variable {σ : Type}

/-- That something is told of an invalid choice. -/
def Event.isMistake : Event → Bool
  | .happened .invalidChoice _ _ => true
  | _ => false

def Session.forgiven (s : Session) : Session :=
  { s with retries := 0 }

/-- Answers that are the same, in whatever worlds. -/
theorem Paired.of_fst {τ α : Type} {a : α × σ} {b : α × τ} (same : a.1 = b.1) :
    Paired (fun _ _ => True) a b := by
  obtain ⟨answer, w⟩ := a
  obtain ⟨other, v⟩ := b
  obtain rfl : answer = other := same
  exact .intro answer trivial

/-- Hosts that serve the same story answer alike. -/
theorem Host.Serves.matches {τ : Type} {h : Host σ} {k : Host τ} {st : Story}
    (serves : h.Serves st) (other : k.Serves st) (R : List Text) :
    h.Matches R (fun _ _ => True) k where
  halted _ := .of_fst ((serves.live _).trans (other.live _).symm)
  read path _ _ := .of_fst ((serves.reads path _).trans (other.reads path _).symm)
  tell lines _ := .of_fst ((serves.tells lines _).trans (other.tells lines _).symm)
  offer choices _ := .of_fst ((serves.offers choices _).trans (other.offers choices _).symm)
  complain message _ :=
    .of_fst ((serves.complains message _).trans (other.complains message _).symm)

namespace View

variable {h : Host σ} {st : Story} {v : View} {r : Option Failure × View}

/-- The view without its invalid choices: neither their number nor what was told of them is left. -/
def forgiven (v : View) : View :=
  ⟨v.session.forgiven, v.loader, v.story.filter fun e => !e.isMistake⟩

/-- An answer with the forgiven view after it. -/
def forgive (r : Option Failure × View) : Option Failure × View :=
  (r.1, r.2.forgiven)

/-- How entering a scene turns out if the session goes on and everything is shown. -/
def entered (v : View) (found : Found) : Option Failure × View :=
  let offers := found.scene.offers (v.session.arrived found).inventory
  if offers = [] then (v.arrive found).finish found.deadEnd
  else
    match v.loader.brokenOffer? found.address offers with
    | some (b, f) => (v.arrive found).finish (b.locate found.address.file f)
    | none => (none, (v.arrive found).await found)

/-- How an input turns out in a story if the session waits for one, goes on and shows everything,
    however many invalid choices there were. -/
def chosen (st : Story) (v : View) (input : Text) : Option Failure × View :=
  match pick? v.session.offers input with
  | some (n, offer) =>
    let f := v.loader.follow st.host.read v.session.position offer.branch.target ()
    let after : View := { v.choice n offer with loader := f.loader }
    match f.result with
    | .error failure => after.finish (offer.branch.locate v.session.position.file failure)
    | .ok found => after.entered found
  | none =>
    (some (.ofReport { problem := .invalidChoice input v.session.offers.length
                       address := v.session.eventAddress }), v.mistake input)

theorem Entering.eq_entered (serves : h.Serves st) {found : Found}
    (entering : v.Entering h found r) : r = v.entered found := by
  unfold entered
  dsimp only
  cases entering with
  | halted asked => exact absurd asked serves.not_halts
  | unshown refused => exact absurd refused serves.not_refuses
  | deadEnd nothing => rw [if_pos nothing]
  | broken something missing => rw [if_neg something, missing]
  | awaiting something whole => rw [if_neg something, whole]

theorem Choosing.eq_chosen (serves : h.Serves st) (unlimited : v.session.maxRetries ≤ 0)
    {input : Text} {w : σ} (choosing : v.Choosing h input w r) : r = v.chosen st input := by
  -- What is found behind a target does not depend on the world that it is looked for in.
  have follows (target : Target) :
      (v.loader.follow h.read v.session.position target (h.halted w).2).Matches (fun _ _ => True)
        (v.loader.follow st.host.read v.session.position target ()) :=
    Loader.follow_matches
      (serves.matches st.host_serves (v.loader.soughtFrom v.session.position target))
      (List.Subset.refl _) trivial
  unfold chosen
  cases choosing with
  | halted asked => exact absurd asked serves.not_halts
  | @unresolved n offer f l picked kept failed =>
    have same := follows offer.branch.target
    simp only [picked, same.result, same.loader, kept, failed]
  | @entering n offer found l r picked kept ok rest =>
    have same := follows offer.branch.target
    simp only [picked, same.result, same.loader, kept, ok]
    exact rest.eq_entered serves
  | unshown unpicked refused => exact absurd refused serves.not_refuses
  | exhausted unpicked many => exact absurd many.1 (by omega)
  | rejected unpicked few => simp only [unpicked]

/-! ## What is forgiven -/

theorem forgive_finish (v : View) (f : Failure) :
    forgive (v.finish f) = forgive (v.forgiven.finish f) := by
  simp [forgive, finish, forgiven, tell, Session.forgiven, Session.finished, Session.farewell,
    Session.eventAddress]

theorem forgiven_forgiven (v : View) : v.forgiven.forgiven = v.forgiven := by
  simp [forgiven, Session.forgiven]

theorem forgiven_mistake (v : View) (input : Text) : (v.mistake input).forgiven = v.forgiven := by
  simp [forgiven, mistake, tell, Session.forgiven, Session.mistaken, Event.isMistake]

theorem forgiven_await (v : View) (found : Found) :
    (v.await found).forgiven = v.forgiven.await found :=
  rfl

theorem forgive_entered (v : View) (found : Found) :
    forgive (v.entered found) = forgive (v.forgiven.entered found) := by
  have arrived : (v.arrive found).forgiven = (v.forgiven.arrive found).forgiven := by
    simp [forgiven, arrive, tell, Session.forgiven, Session.arrived]
  have finished (f : Failure) : forgive ((v.arrive found).finish f) =
      forgive ((v.forgiven.arrive found).finish f) := by
    rw [forgive_finish, arrived, ← forgive_finish]
  have offers : found.scene.offers (v.forgiven.session.arrived found).inventory =
      found.scene.offers (v.session.arrived found).inventory := rfl
  have loader : v.forgiven.loader = v.loader := rfl
  unfold entered
  dsimp only
  rw [offers, loader]
  split
  · exact finished _
  · split
    · exact finished _
    · rw [forgive, forgive, forgiven_await, forgiven_await, arrived]

theorem forgive_chosen (st : Story) (v : View) (input : Text) :
    forgive (v.chosen st input) = forgive (v.forgiven.chosen st input) := by
  have offers : v.forgiven.session.offers = v.session.offers := rfl
  have loader : v.forgiven.loader = v.loader := rfl
  have position : v.forgiven.session.position = v.session.position := rfl
  have decided (n : Nat) (offer : Offer) (l : Loader) :
      ({ v.choice n offer with loader := l } : View).forgiven =
        ({ v.forgiven.choice n offer with loader := l } : View).forgiven := by
    simp [forgiven, choice, tell, Session.forgiven, Session.eventAddress]
  unfold chosen
  rw [offers]
  split
  · dsimp only
    rw [loader, position]
    split
    · rw [forgive_finish, decided, ← forgive_finish]
    · rw [forgive_entered, decided, ← forgive_entered]
  · rw [forgive, forgive, forgiven_mistake, forgiven_mistake, forgiven_forgiven]
    rfl

theorem Entering.maxRetries {found : Found} (entering : v.Entering h found r) :
    r.2.session.maxRetries = v.session.maxRetries := by
  cases entering with
  | _ => rfl

theorem Starting.maxRetries {entry : Address} {w : σ} (starting : v.Starting h entry w r) :
    r.2.session.maxRetries = v.session.maxRetries := by
  cases starting with
  | entering kept ok rest => exact rest.maxRetries
  | _ => rfl

theorem Choosing.maxRetries {input : Text} {w : σ} (choosing : v.Choosing h input w r) :
    r.2.session.maxRetries = v.session.maxRetries := by
  cases choosing with
  | entering picked kept ok rest => exact rest.maxRetries
  | _ => rfl

/-- An input that picks something ends the session or is answered without a word. -/
theorem Choosing.goes {input : Text} {w : σ} {n : Nat} {offer : Offer}
    (picked : pick? v.session.offers input = some (n, offer))
    (choosing : v.Choosing h input w r) : Goes r := by
  cases choosing with
  | halted asked => exact .inl ⟨rfl, rfl⟩
  | unresolved here kept failed => exact .inl ⟨rfl, rfl⟩
  | entering here kept ok rest => exact rest.goes
  | unshown unpicked refused => cases picked.symm.trans unpicked
  | exhausted unpicked many => cases picked.symm.trans unpicked
  | rejected unpicked few => cases picked.symm.trans unpicked

end View

namespace Play

variable {h : Host σ} {st : Story} {p q : Play σ} {input : Text} {inputs fewer : List Text}

/-- Whether an input is turned down. -/
def rejects (h : Host σ) (p : Play σ) (input : Text) : Bool :=
  (p.choose h input).1.any fun f => f.code = .invalidChoice

/-- The play after inputs in turn. -/
def chooseAll (h : Host σ) (p : Play σ) (inputs : List Text) : Play σ :=
  p.makeAll h (inputs.map .choose)

/-- The inputs that are accepted among inputs in turn, each with the forgiven view after it. -/
def accepted (h : Host σ) : List Text → Play σ → List (Text × View)
  | [], _ => []
  | input :: rest, p =>
    let after := (p.choose h input).2
    if p.session.stage = .awaitingChoice ∧ p.rejects h input = false then
      (input, after.view.forgiven) :: accepted h rest after
    else accepted h rest after

/-- That some of the inputs that are turned down are left out of inputs in turn. -/
inductive Spares (h : Host σ) : List Text → List Text → Play σ → Prop where
  | done (p : Play σ) : Spares h [] [] p
  | keep {inputs fewer : List Text} (p : Play σ) (input : Text)
      (rest : Spares h inputs fewer (p.choose h input).2) :
    Spares h (input :: inputs) (input :: fewer) p
  | drop {inputs fewer : List Text} (p : Play σ) {input : Text}
      (rejected : p.rejects h input = true) (rest : Spares h inputs fewer (p.choose h input).2) :
    Spares h (input :: inputs) fewer p

/-- That a session is in order and that no number of invalid choices ends it. -/
structure Lenient (p : Play σ) : Prop where
  sound : p.view.Sound
  unlimited : p.session.maxRetries ≤ 0

theorem Lenient.make (lenient : p.Lenient) (h : Host σ) (m : Move) : (p.make h m).2.Lenient := by
  refine ⟨kept_sound.make h m lenient.sound, ?_⟩
  by_cases expected : p.session.Expects m
  · have same : (p.make h m).2.session.maxRetries = p.session.maxRetries := by
      cases m with
      | start entry => exact (start_starting h entry expected).maxRetries
      | choose input => exact (choose_choosing h input expected).maxRetries
    rw [same]
    exact lenient.unlimited
  · obtain ⟨f, same, -⟩ := make_of_not_expects h expected
    rw [same]
    exact lenient.unlimited

theorem Lenient.chooseAll (lenient : p.Lenient) (inputs : List Text) :
    (p.chooseAll h inputs).Lenient := by
  induction inputs generalizing p with
  | nil => exact lenient
  | cons input rest ih => exact ih (lenient.make h (.choose input))

theorem rejects_iff :
    p.rejects h input = true ↔ ∃ f, (p.choose h input).1 = some f ∧ f.code = .invalidChoice := by
  simp [rejects, Option.any_eq_true]

/-- An input is turned down only if the session waits for one and it picks nothing. -/
theorem unpicked_of_rejects (sound : p.view.Sound) (rejected : p.rejects h input = true) :
    p.session.stage = .awaitingChoice ∧ pick? p.session.offers input = none := by
  obtain ⟨f, answered, code⟩ := rejects_iff.mp rejected
  by_cases waiting : p.session.stage = .awaitingChoice
  · refine ⟨waiting, ?_⟩
    have choosing := choose_choosing h input waiting
    have answers := (choosing.concluded waiting sound).answers
    cases picked : pick? p.session.offers input with
    | none => rfl
    | some choice =>
      rcases choosing.goes picked with ⟨ended, -⟩ | ⟨-, silent⟩
      · have going := answers.1.mp (.inr ⟨f, answered, code⟩)
        cases ended.symm.trans going
      · cases silent.symm.trans answered
  · rw [choose_of_ne h input waiting] at answered
    cases answered
    cases code

theorem shown_of_ok {result : Option Failure × σ} (ok : result.1 = none)
    (next : Play σ → Option Failure × Play σ) :
    p.shown result next = next { p with world := result.2 } := by
  rw [shown, ok]

theorem reject_of_serves (serves : h.Serves st) (unlimited : p.session.maxRetries ≤ 0) :
    (p.reject h input).2 =
      { p.mistaken input with
        world := (h.offer p.session.choices (h.complain
          (Problem.invalidChoice input p.session.offers.length).message p.world).2).2 } := by
  have few : ¬(0 < p.session.maxRetries ∧ p.session.maxRetries ≤ (p.session.retries + 1 : Nat)) := by
    omega
  unfold reject
  dsimp only
  rw [shown_of_ok (serves.complains ..), insist, if_neg (by exact few), present,
    shown_of_ok (serves.offers ..)]
  rfl

/-- The play after an input that is turned down: the complaint is shown, then the same choices. -/
theorem choose_of_rejects (serves : h.Serves st) (lenient : p.Lenient)
    (rejected : p.rejects h input = true) :
    (p.choose h input).2 =
      { p.mistaken input with
        world := (h.offer p.session.choices (h.complain
          (Problem.invalidChoice input p.session.offers.length).message
          (h.halted p.world).2).2).2 } := by
  obtain ⟨waiting, unpicked⟩ := unpicked_of_rejects lenient.sound rejected
  rw [choose_of_live waiting (serves.live p.world), unpicked]
  exact reject_of_serves (p := p.asked h) serves lenient.unlimited

theorem view_of_rejects (serves : h.Serves st) (lenient : p.Lenient)
    (rejected : p.rejects h input = true) :
    (p.choose h input).2.view = p.view.mistake input := by
  rw [choose_of_rejects serves lenient rejected, ← view_mistaken]
  rfl

/-- Inputs to sessions that differ in their invalid choices have the same answer and leave sessions
    that differ no more. -/
theorem forgive_choose (serves : h.Serves st) (before : p.Lenient) (other : q.Lenient)
    (same : p.view.forgiven = q.view.forgiven) (input : Text) :
    View.forgive (seen (p.choose h input)) = View.forgive (seen (q.choose h input)) := by
  have stage : p.session.stage = q.session.stage := congrArg (·.session.stage) same
  by_cases waiting : p.session.stage = .awaitingChoice
  · have waits : q.session.stage = .awaitingChoice := stage ▸ waiting
    rw [(choose_choosing h input waiting).eq_chosen serves before.unlimited,
      (choose_choosing h input waits).eq_chosen serves other.unlimited,
      View.forgive_chosen, same, ← View.forgive_chosen]
  · rw [choose_of_ne h input waiting, choose_of_ne h input (stage ▸ waiting), seen, seen,
      View.forgive, View.forgive, same, stage]

/-- Leaving out inputs that are turned down changes neither what is accepted nor where it leads. -/
theorem Spares.same (serves : h.Serves st) (spares : Spares h inputs fewer p) (before : p.Lenient)
    (other : q.Lenient) (same : p.view.forgiven = q.view.forgiven) :
    p.accepted h inputs = q.accepted h fewer ∧
      (p.chooseAll h inputs).view.forgiven = (q.chooseAll h fewer).view.forgiven := by
  induction spares generalizing q with
  | done p => exact ⟨rfl, same⟩
  | keep p input rest ih =>
    have answers := forgive_choose serves before other same input
    have views : (p.choose h input).2.view.forgiven = (q.choose h input).2.view.forgiven :=
      congrArg Prod.snd answers
    have rejects : p.rejects h input = q.rejects h input :=
      congrArg (fun r => r.1.any fun f => f.code = .invalidChoice) answers
    have stage : p.session.stage = q.session.stage := congrArg (·.session.stage) same
    obtain ⟨accepts, ends⟩ := ih (q := (q.choose h input).2) (before.make h (.choose input))
      (other.make h (.choose input)) views
    refine ⟨?_, ends⟩
    simp only [accepted, stage, rejects, views, accepts]
  | drop p rejected rest ih =>
    have after := view_of_rejects serves before rejected
    obtain ⟨accepts, ends⟩ := ih (before.make h (.choose _)) other
      (by rw [after, View.forgiven_mistake, same])
    refine ⟨?_, ends⟩
    rw [accepted, if_neg (by simp [rejected]), accepts]

end Play

/-! ## What is shown -/

/-- The host that keeps all that it is asked to show. -/
def Host.watched (h : Host σ) : Host (σ × List Shown) where
  halted w := ((h.halted w.1).1, (h.halted w.1).2, w.2)
  read path w := ((h.read path w.1).1, (h.read path w.1).2, w.2)
  tell lines w := ((h.tell lines w.1).1, (h.tell lines w.1).2, w.2 ++ [.lines lines])
  offer choices w :=
    ((h.offer choices w.1).1, (h.offer choices w.1).2, w.2 ++ [.choices choices])
  complain message w :=
    ((h.complain message w.1).1, (h.complain message w.1).2, w.2 ++ [.complaint message])

theorem Host.Serves.watched {h : Host σ} {st : Story} (serves : h.Serves st) :
    h.watched.Serves st where
  live w := serves.live w.1
  reads path w := serves.reads path w.1
  tells lines w := serves.tells lines w.1
  offers choices w := serves.offers choices w.1
  complains message w := serves.complains message w.1

def Shown.choices? : Shown → Option (List Choice)
  | .choices offered => some offered
  | _ => none

/-- The choices that were shown last. -/
def Shown.last? (shown : List Shown) : Option (List Choice) :=
  (shown.filterMap choices?).getLast?

namespace Play

variable {h : Host σ} {p : Play (σ × List Shown)}

/-- That a session which waits for a choice has shown its choices, and no others since. -/
def Offering (p : Play (σ × List Shown)) : Prop :=
  p.session.stage = .awaitingChoice → Shown.last? p.world.2 = some p.session.choices

theorem offering_finish (f : Failure) : (p.finish f).2.Offering := by
  have ended : (p.finish f).2.session.stage = .ended :=
    congrArg (·.2.session.stage) (seen_finish p f)
  intro waiting
  cases ended.symm.trans waiting

theorem offering_shown {result : Option Failure × σ × List Shown}
    {next : Play (σ × List Shown) → Option Failure × Play (σ × List Shown)}
    (go : (next { p with world := result.2 }).2.Offering) : (p.shown result next).2.Offering := by
  unfold shown
  dsimp only
  split
  · exact offering_finish _
  · exact go

theorem offering_unlessHalted
    {next : Play (σ × List Shown) → Option Failure × Play (σ × List Shown)}
    (go : ∀ p, (next p).2.Offering) : (p.unlessHalted h.watched next).2.Offering := by
  unfold unlessHalted
  dsimp only
  split
  · exact offering_finish _
  · exact go _

theorem offering_present : (p.present h.watched).2.Offering := by
  refine offering_shown fun _ => ?_
  simp [Shown.last?, Host.watched, Shown.choices?]

theorem offering_offerBranches (found : Found) :
    (p.offerBranches h.watched found).2.Offering := by
  unfold offerBranches
  dsimp only
  split
  · exact offering_finish _
  · split
    · exact offering_finish _
    · exact offering_present

theorem offering_enter (found : Found) : (p.enter h.watched found).2.Offering := by
  refine offering_unlessHalted fun p => ?_
  unfold receive
  dsimp only
  split
  · exact offering_shown (offering_offerBranches found)
  · exact offering_offerBranches found

theorem offering_pursue (f : Fetched (σ × List Shown) Found) (locate : Failure → Failure) :
    (p.pursue h.watched f locate).2.Offering := by
  unfold pursue
  split
  · exact offering_finish _
  · exact offering_enter _

theorem offering_start (before : p.Offering) (entry : Address) :
    (p.start h.watched entry).2.Offering := by
  unfold start
  split
  · exact before
  · exact offering_unlessHalted fun p => offering_pursue _ _

theorem offering_take (n : Nat) (offer : Offer) : (p.take h.watched n offer).2.Offering := by
  unfold take
  exact offering_pursue _ _

theorem offering_insist (problem : Problem) (address : Text) :
    (p.insist h.watched problem address).2.Offering := by
  unfold insist
  split
  · exact offering_finish _
  · split
    · next failure q answer => exact (congrArg (Offering ·.2) answer).mp offering_present
    · next q answer => exact (congrArg (Offering ·.2) answer).mp offering_present

theorem offering_reject (input : Text) : (p.reject h.watched input).2.Offering :=
  offering_shown (offering_insist _ _)

theorem offering_choose (before : p.Offering) (input : Text) :
    (p.choose h.watched input).2.Offering := by
  unfold choose
  split
  · exact before
  · refine offering_unlessHalted fun p => ?_
    split
    · exact offering_take _ _
    · exact offering_reject input

theorem offering_chooseAll (before : p.Offering) (inputs : List Text) :
    (p.chooseAll h.watched inputs).Offering := by
  induction inputs generalizing p with
  | nil => exact before
  | cons input rest ih => exact ih (offering_choose before input)

end Play

/-- Nothing is left in a game of inputs that are turned down, if no number of them ends the session
    and the host serves a story. Any of them can be left out: the inputs that are accepted are the
    same then, and so are, after each of them and in the end, the session but for the number of
    retries, the files that were read, and what transcripts are told but for the invalid choices.
    Each of them is complained about, followed by the choices that were shown last, and told to
    transcripts as it is; nothing else is shown or told, and nothing but the number of retries
    changes in the session. -/
theorem rejected_inputs_leave_no_trace {h : Host σ} {st : Story} (serves : h.Serves st)
    {p : Play (σ × List Shown)} (reachable : p.Reachable)
    (fresh : p.session.stage = .awaitingEntry) (unlimited : p.session.maxRetries ≤ 0)
    (entry : Address) :
    let started := (p.start h.watched entry).2
    (∀ inputs fewer, started.Spares h.watched inputs fewer →
      started.accepted h.watched inputs = started.accepted h.watched fewer ∧
      (started.chooseAll h.watched inputs).view.forgiven =
        (started.chooseAll h.watched fewer).view.forgiven) ∧
    ∀ inputs input,
      let before := started.chooseAll h.watched inputs
      let after := (before.choose h.watched input).2
      before.rejects h.watched input = true →
        after.session = before.session.mistaken ∧
        after.story = before.story ++
          [.happened .invalidChoice before.session.eventAddress input] ∧
        ∃ choices, Shown.last? before.world.2 = some choices ∧
          after.world.2 = before.world.2 ++
            [.complaint (Problem.invalidChoice input choices.length).message,
              .choices choices] := by
  intro started
  have lenient : started.Lenient :=
    Play.Lenient.make ⟨reachable.sound, unlimited⟩ h.watched (.start entry)
  have offering : started.Offering := by
    refine Play.offering_start (fun waiting => ?_) entry
    cases fresh.symm.trans waiting
  refine ⟨fun inputs fewer spares => spares.same serves.watched lenient lenient rfl, ?_⟩
  intro inputs input before after rejected
  have still : before.Lenient := lenient.chooseAll inputs
  have turned := Play.choose_of_rejects serves.watched still rejected
  have waiting := (Play.unpicked_of_rejects still.sound rejected).1
  have told := Play.view_of_rejects serves.watched still rejected
  refine ⟨congrArg View.session told, congrArg View.story told, before.session.choices,
    Play.offering_chooseAll offering inputs waiting, ?_⟩
  have shown : after.world.2 = before.world.2 ++
      [.complaint (Problem.invalidChoice input before.session.offers.length).message] ++
      [.choices before.session.choices] := congrArg (·.world.2) turned
  rw [shown, List.append_assoc, Session.choices, List.length_map]
  rfl

/-- Two of three inputs before a door that a key opens are turned down, and one of them left out. -/
theorem rejected_inputs_leave_no_trace_vault :
    let k := Story.vault.host.watched
    let started := (Play.start k ⟨"a", "m", "s"⟩
      ⟨{ id := "v" }, { directory := "/" }, ((), []), []⟩).2
    started.Spares k ["7", "x", "1"] ["x", "1"] ∧
      (started.accepted k ["7", "x", "1"]).map Prod.fst = [("1" : Text)] ∧
      started.accepted k ["7", "x", "1"] = started.accepted k ["x", "1"] ∧
      (started.chooseAll k ["7"]).rejects k "x" = true ∧
      ∃ choices, Shown.last? (started.chooseAll k ["7"]).world.2 = some choices ∧
        ((started.chooseAll k ["7"]).choose k "x").2.world.2 =
          (started.chooseAll k ["7"]).world.2 ++
            [.complaint (Problem.invalidChoice "x" choices.length).message, .choices choices] := by
  intro k started
  have facts : started.rejects k "7" = true ∧ (started.chooseAll k ["7"]).rejects k "x" = true ∧
      (started.accepted k ["7", "x", "1"]).map Prod.fst = [("1" : Text)] := by
    decide +kernel
  obtain ⟨first, second, accepted⟩ := facts
  obtain ⟨left, each⟩ := rejected_inputs_leave_no_trace Story.vault.host_serves
    (.fresh "v" 0 {} ((), []) (Loader.readFrom_empty _ "/")) rfl le_rfl ⟨"a", "m", "s"⟩
  have spares : started.Spares k ["7", "x", "1"] ["x", "1"] :=
    .drop _ first (.keep _ _ (.keep _ _ (.done _)))
  exact ⟨spares, accepted, (left _ _ spares).1, second, (each ["7"] "x" second).2.2⟩

end Gamebook
