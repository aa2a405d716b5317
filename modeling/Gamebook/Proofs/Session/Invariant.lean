import Gamebook.Proofs.Session.Game
import Gamebook.Proofs.Session.Steps

/-! # What holds of every session

`Play.Reachable` are the plays that calls lead to, in whatever order they come and however the host
behaves in each of them. A call leaves such a session before its entry, with something on offer, or
ended (`Session.Settled`), and nothing brings an ended session back. The induction also carries
where the scenes came from: the loader keeps the file of the current scene, and that file can be
played.
-/

namespace Gamebook

namespace Session

/-- That a session is in order between two calls. -/
def Settled (s : Session) : Prop :=
  match s.stage with
  | .awaitingEntry => s.position = {} ∧ s.offers = [] ∧ s.ending = none
  | .awaitingChoice =>
    s.ending = none ∧ s.offers ≠ [] ∧
      (∃ found, s.current = some found ∧ s.offers =
        numbered (found.scene.branches.filter fun b => b.guard.all s.inventory.meets)) ∧
      (0 < s.maxRetries → s.retries < s.maxRetries)
  | .ended => s.offers = [] ∧ s.ending ≠ none
  | .presenting | .transitioning => False

/-- That a session waits for a move. -/
def Expects (s : Session) : Move → Prop
  | .start _ => s.stage = .awaitingEntry
  | .choose _ => s.stage = .awaitingChoice

/-- That an answer tells how a session goes on: if it is to go on, the answer is nothing or that the
    choice was invalid, and otherwise it is why the session ended. -/
def Answers (s : Session) (answer : Option Failure) : Prop :=
  ((answer = none ∨ ∃ f, answer = some f ∧ f.code = .invalidChoice) ↔ s.stage = .awaitingChoice) ∧
    (s.stage ≠ .awaitingChoice → answer = s.ending)

theorem settled_finished (s : Session) (f : Failure) : (s.finished f).Settled := by
  simp [Settled, finished]

theorem answers_finished (s : Session) {f : Failure} (code : f.code ≠ .invalidChoice) :
    (s.finished f).Answers (some f) := by
  simp [Answers, finished, code]

end Session

/-- The plays that calls lead to. Each call may have a host of its own, and in between others may
    use the loader and change the world. -/
inductive Play.Reachable {σ : Type} : Play σ → Prop where
  | fresh (id : Text) (maxRetries : Int) (inventory : Inventory) {l : Loader} (w : σ)
      (kept : l.ReadFrom fun _ _ => True) : Reachable ⟨{ id, maxRetries, inventory }, l, w, []⟩
  | make {p : Play σ} (before : Reachable p) (h : Host σ) (m : Move) : Reachable (p.make h m).2
  | run {p : Play σ} (before : Reachable p) (h : Host σ) (player : Option (Player σ))
      (entry : Address) : Reachable (p.run h player entry).2
  | cancel {p : Play σ} (before : Reachable p) : Reachable p.cancel
  | meanwhile {p : Play σ} (before : Reachable p) {l : Loader} (more : p.loader.Extends l)
      (kept : l.ReadFrom fun _ _ => True) (w : σ) : Reachable { p with loader := l, world := w }

/-- That a loader has read the file of the current scene, and that it can be played. -/
structure Loader.Grounds (l : Loader) (current : Option Found) : Prop where
  kept : l.ReadFrom fun _ _ => True
  plays : ∀ found, current = some found → l.Plays found.address.file

namespace Loader.Grounds

variable {l after : Loader} {current : Option Found}

theorem extended (grounds : l.Grounds current) (more : l.Extends after)
    (kept : after.ReadFrom fun _ _ => True) : after.Grounds current :=
  ⟨kept, fun found here => (grounds.plays found here).mono more⟩

theorem arrived (grounds : l.Grounds current) {found : Found} (here : l.Plays found.address.file) :
    l.Grounds (some found) := by
  refine ⟨grounds.kept, fun other same => ?_⟩
  obtain rfl : found = other := Option.some.inj same
  exact here

end Loader.Grounds

namespace View

/-- That a view is in order between two calls. -/
structure Sound (v : View) : Prop where
  settled : v.session.Settled
  grounds : v.loader.Grounds v.session.current

/-- That a call left a view in order and answered for it. -/
structure Concluded (r : Option Failure × View) : Prop where
  sound : r.2.Sound
  answers : r.2.session.Answers r.1

variable {σ : Type} {h : Host σ} {v : View} {r : Option Failure × View}

theorem sound_finish (grounds : v.loader.Grounds v.session.current) (f : Failure) :
    (v.finish f).2.Sound :=
  ⟨v.session.settled_finished f, grounds⟩

theorem concluded_finish (grounds : v.loader.Grounds v.session.current) {f : Failure}
    (code : f.code ≠ .invalidChoice) : Concluded (v.finish f) :=
  ⟨sound_finish grounds f, v.session.answers_finished code⟩

theorem Entering.concluded {found : Found} (alive : v.session.ending = none)
    (grounds : v.loader.Grounds v.session.current) (here : v.loader.Plays found.address.file)
    (entering : v.Entering h found r) : Concluded r := by
  have arrived : (v.arrive found).loader.Grounds (v.arrive found).session.current :=
    grounds.arrived here
  cases entering with
  | halted asked => exact concluded_finish grounds (by simp [Problem.code])
  | unshown refused => exact concluded_finish arrived (by simp [Problem.code])
  | deadEnd nothing => exact concluded_finish arrived (by simp [Found.deadEnd, Problem.code])
  | broken something missing =>
    refine concluded_finish arrived ?_
    rw [Branch.locate, Failure.code_placed]
    rcases Loader.brokenOffer?_code here missing with code | code
    · simp [code]
    · simp [code]
  | awaiting something whole =>
    have settled : ((v.session.arrived found).awaiting found).Settled :=
      ⟨alive, something, ⟨found, rfl, Scene.offers_eq ..⟩, fun limited => limited⟩
    refine ⟨⟨settled, arrived⟩, ?_⟩
    simp [Session.Answers, View.await, Session.awaiting]

theorem Starting.concluded {entry : Address} {w : σ} (alive : v.session.ending = none)
    (grounds : v.loader.Grounds v.session.current) (starting : v.Starting h entry w r) :
    Concluded r := by
  have kept : (v.loader.resolve h.read entry (h.halted w).2).loader.ReadFrom fun _ _ => True :=
    grounds.kept.load h.read entry.file _ fun _ _ _ _ => trivial
  have more : v.loader.Extends (v.loader.resolve h.read entry (h.halted w).2).loader :=
    Loader.load_extends ..
  cases starting with
  | halted asked => exact concluded_finish (v := v.tell _) grounds (by simp [Problem.code])
  | unresolved loader failed =>
    have code := (Loader.resolve_code kept failed).ne_invalidChoice
    rw [loader] at kept more
    exact concluded_finish (v := { v.tell _ with loader := _ }) (grounds.extended more kept) code
  | entering loader ok rest =>
    have here := Loader.resolve_plays kept ok
    rw [loader] at kept more here
    exact Entering.concluded (v := { v.tell _ with loader := _ }) alive (grounds.extended more kept)
      here rest

/-- The file that a choice is followed from can be played. -/
theorem Sound.plays_position (sound : v.Sound) (waiting : v.session.stage = .awaitingChoice) :
    v.loader.Plays v.session.position.file := by
  have settled := sound.settled
  rw [Session.Settled, waiting] at settled
  obtain ⟨-, -, ⟨found, current, -⟩, -⟩ := settled
  rw [Session.position, current]
  exact sound.grounds.plays found current

theorem Choosing.concluded {input : Text} {w : σ} (waiting : v.session.stage = .awaitingChoice)
    (sound : v.Sound) (choosing : v.Choosing h input w r) : Concluded r := by
  have plays := sound.plays_position waiting
  obtain ⟨settled, grounds⟩ := sound
  rw [Session.Settled, waiting] at settled
  obtain ⟨alive, something, ⟨scene, current, offers⟩, few⟩ := settled
  have fetched (offer : Offer) :
      (v.loader.follow h.read v.session.position offer.branch.target
        (h.halted w).2).loader.ReadFrom fun _ _ => True :=
    grounds.kept.follow fun _ _ _ _ => trivial
  cases choosing with
  | halted asked => exact concluded_finish grounds (by simp [Problem.code])
  | @unresolved n offer f l picked loader failed =>
    have code := (Loader.follow_code (fetched offer) plays failed).ne_invalidChoice
    have more := grounds.extended Loader.follow_extends (fetched offer)
    rw [loader] at more
    refine concluded_finish (v := { v.choice n offer with loader := l }) more ?_
    rwa [Branch.locate, Failure.code_placed]
  | @entering n offer found l r picked loader ok rest =>
    have here := Loader.follow_plays (fetched offer) plays ok
    have more := grounds.extended Loader.follow_extends (fetched offer)
    rw [loader] at here more
    exact Entering.concluded (v := { v.choice n offer with loader := l }) alive more here rest
  | unshown unpicked refused =>
    exact concluded_finish (v := v.mistake input) grounds (by simp [Problem.code])
  | exhausted unpicked many =>
    exact concluded_finish (v := v.mistake input) grounds (by simp [Problem.code])
  -- Only here does the session go on with more retries; the bound was tested for the new number.
  | rejected unpicked fewer =>
    have left :
        0 < v.session.maxRetries → (v.session.retries + 1 : Nat) < v.session.maxRetries := by
      omega
    refine ⟨⟨?_, grounds⟩, ?_⟩
    · simp only [Session.Settled, View.mistake, View.tell, Session.mistaken, waiting]
      exact ⟨alive, something, ⟨scene, current, offers⟩, left⟩
    · simp [Session.Answers, View.mistake, View.tell, Session.mistaken, waiting, Problem.code]

end View

namespace Play

variable {σ : Type} {p : Play σ}

/-- A move that the session does not wait for is refused. -/
theorem make_of_not_expects (h : Host σ) {m : Move} (unexpected : ¬p.session.Expects m) :
    ∃ f, p.make h m = (some f, p) ∧ f.code = .invalidState := by
  cases m with
  | start entry => exact ⟨_, start_of_ne h entry unexpected, rfl⟩
  | choose input => exact ⟨_, choose_of_ne h input unexpected, rfl⟩

theorem make_concluded (sound : p.view.Sound) (h : Host σ) {m : Move}
    (expected : p.session.Expects m) : View.Concluded (seen (p.make h m)) := by
  cases m with
  | start entry =>
    have settled := sound.settled
    rw [Session.Settled, show p.view.session.stage = .awaitingEntry from expected] at settled
    exact (start_starting h entry expected).concluded settled.2.2 sound.grounds
  | choose input =>
    have waiting : p.view.session.stage = .awaitingChoice := expected
    exact (choose_choosing h input expected).concluded waiting sound

/-- Moves and endings leave a session in order, and the world has no bearing on it. -/
theorem kept_sound : Kept fun p : Play σ => p.view.Sound where
  make {p} h m sound := by
    by_cases expected : p.session.Expects m
    · exact (make_concluded sound h expected).sound
    · obtain ⟨f, same, -⟩ := make_of_not_expects h expected
      rw [same]
      exact sound
  finish {p} f _ sound := by
    have ended : (p.finish f).2.view = (p.view.finish f).2 := congrArg Prod.snd (seen_finish p f)
    rw [ended]
    exact View.sound_finish sound.grounds f
  world _ sound := sound

/-- A session that is over stays as it is, and so does everything around it. -/
theorem run_of_ended (h : Host σ) (player : Option (Player σ)) (entry : Address)
    (ended : p.session.stage = .ended) :
    ∃ f, p.run h player entry = (some f, p) ∧ f.code = .invalidState := by
  cases player with
  | none => exact ⟨_, rfl, rfl⟩
  | some player =>
    have refused := start_of_ne (p := p) h entry (by simp [ended])
    exact ⟨.ofProblem (.startTwice p.session.stage), by simp only [run, refused], rfl⟩

/-- Every play that calls lead to is in order. -/
theorem Reachable.sound (reachable : p.Reachable) : p.view.Sound := by
  induction reachable with
  | fresh id maxRetries inventory w kept =>
    -- No scene is current yet, so there is no file that would have to be kept.
    refine ⟨⟨rfl, rfl, rfl⟩, kept, fun found current => ?_⟩
    cases current
  | make before h m ih => exact kept_sound.make h m ih
  | run before h player entry ih => exact kept_sound.run h player entry ih
  | cancel before ih => exact kept_sound.cancel ih
  | meanwhile before more kept w ih => exact ⟨ih.settled, ih.grounds.extended more kept⟩

end Play

/-- Between any two calls a session is before its entry, waits for a choice among what the current
    scene offers, or is over. A call that it waits for is answered with nothing or with an invalid
    choice exactly if the session then waits for a choice, and otherwise with why it is over. When
    it is over, every call leaves everything as it is and is refused. -/
theorem reachable_session_settled {σ : Type} {p : Play σ} (reachable : p.Reachable) :
    p.session.Settled ∧
    (∀ h m, p.session.Expects m → (p.make h m).2.session.Answers (p.make h m).1) ∧
    (p.session.stage = .ended → p.cancel = p ∧ ∀ h : Host σ,
      (∀ m, ∃ f, p.make h m = (some f, p) ∧ f.code = .invalidState) ∧
      ∀ player entry, ∃ f, p.run h player entry = (some f, p) ∧ f.code = .invalidState) := by
  have sound := reachable.sound
  refine ⟨sound.settled, fun h m expected => (Play.make_concluded sound h expected).answers,
    fun ended => ⟨if_pos ended, fun h => ⟨fun m => Play.make_of_not_expects h ?_,
      fun player entry => Play.run_of_ended h player entry ended⟩⟩⟩
  cases m with
  | start entry => simp [Session.Expects, ended]
  | choose input => simp [Session.Expects, ended]

/-- A session that one invalid choice ends waits for a choice, and is over after such a one. -/
theorem reachable_session_settled_vault :
    let waiting := (Play.make Story.vault.host
      ⟨{ id := "v", maxRetries := 1 }, { directory := "/" }, (), []⟩ (.start ⟨"a", "m", "s"⟩)).2
    let final := (waiting.make Story.vault.host (.choose "7")).2
    waiting.Reachable ∧ waiting.session.Expects (.choose "7") ∧ waiting.session.Settled ∧
      final.session.Answers (waiting.make Story.vault.host (.choose "7")).1 ∧
      final.Reachable ∧ final.session.stage = .ended ∧ final.cancel = final := by
  intro waiting final
  have reachable : waiting.Reachable :=
    (Play.Reachable.fresh "v" 1 {} () (Loader.readFrom_empty _ "/")).make _ _
  have stage : waiting.session.stage = .awaitingChoice := by decide +kernel
  have ended : final.session.stage = .ended := by decide +kernel
  have finalReachable := reachable.make Story.vault.host (.choose "7")
  obtain ⟨settled, answers, -⟩ := reachable_session_settled reachable
  obtain ⟨-, -, stays⟩ := reachable_session_settled finalReachable
  exact ⟨reachable, stage, settled, answers _ _ stage, finalReachable, ended, (stays ended).1⟩

end Gamebook
