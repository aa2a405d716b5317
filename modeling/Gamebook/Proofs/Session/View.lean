import Gamebook.Session
import Gamebook.Proofs.Inventory
import Gamebook.Proofs.Loader

/-! # What one call can do to a session

A play also holds the world of its host and a log, neither of which the session ever looks at again.
A `View` leaves them out. `Entering`, `Starting` and `Choosing` list every way in which entering a
scene, starting and choosing can turn out for a view, each with the answer of the host or the loader
that leads there; the calls themselves are shown to follow these lists. Invariants of sessions are
then proved by going through the lists, without opening the calls again.
-/

namespace Gamebook

/-- A call that moves a session on. -/
inductive Move where
  | start (entry : Address)
  | choose (input : Text)
  deriving DecidableEq, Repr

/-- That something is left behind for transcripts, rather than for the log. -/
def Event.isTold : Event → Bool
  | .logged _ => false
  | _ => true

namespace Session

/-- The session in a scene whose effects have been applied. -/
def arrived (s : Session) (found : Found) : Session :=
  { s with
    current := some found
    inventory := found.scene.effects.foldl Inventory.apply s.inventory
    retries := 0 }

/-- The session with the branches of a scene on offer. -/
def awaiting (s : Session) (found : Found) : Session :=
  { s with stage := .awaitingChoice, offers := found.scene.offers s.inventory }

/-- What transcripts are told about the end of a session. -/
def farewell (s : Session) (f : Failure) : List Event :=
  [.happened .ending s.eventAddress f.text, .closed f.code]

end Session

/-- What transcripts are told about entering a scene with an inventory. -/
def Found.arrival (found : Found) (inv : Inventory) : List Event :=
  .happened .enter found.address.text [] ::
    (inv.applyAll found.scene.effects).2.map (.happened .inventory found.address.text ·.text)

namespace Host

variable {σ : Type}

/-- That a host, at some moment, wants a session to stop. -/
def Halts (h : Host σ) (cause : Failure) : Prop :=
  ∃ w, (h.halted w).1 = some cause

/-- That a host, at some moment, fails to show something. -/
def Refuses (h : Host σ) (cause : Failure) : Prop :=
  ∃ w, (∃ lines, (h.tell lines w).1 = some cause) ∨
    (∃ choices, (h.offer choices w).1 = some cause) ∨
    ∃ message, (h.complain message w).1 = some cause

end Host

/-- A session with its loader and all that transcripts have been told. -/
structure View where
  session : Session
  loader : Loader
  story : List Event

namespace View

def tell (v : View) (events : List Event) : View :=
  { v with story := v.story ++ events }

def finish (v : View) (f : Failure) : Option Failure × View :=
  (some f, { v with session := v.session.finished f }.tell (v.session.farewell f))

def arrive (v : View) (found : Found) : View :=
  { v with session := v.session.arrived found }.tell (found.arrival v.session.inventory)

def await (v : View) (found : Found) : View :=
  { v with session := v.session.awaiting found }

def choice (v : View) (n : Nat) (offer : Offer) : View :=
  v.tell [.happened .choice v.session.eventAddress (Text.ofNat n ++ ": " ++ offer.choice.label)]

def mistake (v : View) (input : Text) : View :=
  { v with session := v.session.mistaken }.tell
    [.happened .invalidChoice v.session.eventAddress input]

variable {σ : Type}

/-- How entering a scene can turn out. -/
inductive Entering (h : Host σ) (found : Found) (v : View) : Option Failure × View → Prop where
  /-- The host wants the session to stop before anything has changed. -/
  | halted {cause : Failure} (asked : h.Halts cause) :
    Entering h found v (v.finish (.because .sessionCancelled cause))
  | unshown {cause : Failure} (refused : h.Refuses cause) :
    Entering h found v ((v.arrive found).finish (.because .outputNotWritten cause))
  | deadEnd (nothing : found.scene.offers (v.session.arrived found).inventory = []) :
    Entering h found v ((v.arrive found).finish found.deadEnd)
  /-- A branch on offer leads to a scene that its file does not declare. -/
  | broken {b : Branch} {f : Failure}
      (something : found.scene.offers (v.session.arrived found).inventory ≠ [])
      (missing : v.loader.brokenOffer? found.address
        (found.scene.offers (v.session.arrived found).inventory) = some (b, f)) :
    Entering h found v ((v.arrive found).finish (b.locate found.address.file f))
  | awaiting (something : found.scene.offers (v.session.arrived found).inventory ≠ [])
      (whole : v.loader.brokenOffer? found.address
        (found.scene.offers (v.session.arrived found).inventory) = none) :
    Entering h found v (none, (v.arrive found).await found)

/-- How starting can turn out in a world, if the session has not been started. -/
inductive Starting (h : Host σ) (entry : Address) (w : σ) (v : View) :
    Option Failure × View → Prop where
  | halted {cause : Failure} (asked : h.Halts cause) :
    Starting h entry w v ((v.tell [.began entry.text]).finish (.because .sessionCancelled cause))
  | unresolved {f : Failure} {l : Loader}
      (kept : (v.loader.resolve h.read entry (h.halted w).2).loader = l)
      (failed : (v.loader.resolve h.read entry (h.halted w).2).result = .error f) :
    Starting h entry w v ({ v.tell [.began entry.text] with loader := l }.finish f)
  | entering {found : Found} {l : Loader} {r : Option Failure × View}
      (kept : (v.loader.resolve h.read entry (h.halted w).2).loader = l)
      (ok : (v.loader.resolve h.read entry (h.halted w).2).result = .ok found)
      (rest : Entering h found { v.tell [.began entry.text] with loader := l } r) :
    Starting h entry w v r

/-- How an input can turn out in a world, if the session waits for one. -/
inductive Choosing (h : Host σ) (input : Text) (w : σ) (v : View) :
    Option Failure × View → Prop where
  | halted {cause : Failure} (asked : h.Halts cause) :
    Choosing h input w v (v.finish (.because .sessionCancelled cause))
  | unresolved {n : Nat} {offer : Offer} {f : Failure} {l : Loader}
      (picked : pick? v.session.offers input = some (n, offer))
      (kept : (v.loader.follow h.read v.session.position offer.branch.target
        (h.halted w).2).loader = l)
      (failed : (v.loader.follow h.read v.session.position offer.branch.target
        (h.halted w).2).result = .error f) :
    Choosing h input w v ({ v.choice n offer with loader := l }.finish
      (offer.branch.locate v.session.position.file f))
  | entering {n : Nat} {offer : Offer} {found : Found} {l : Loader} {r : Option Failure × View}
      (picked : pick? v.session.offers input = some (n, offer))
      (kept : (v.loader.follow h.read v.session.position offer.branch.target
        (h.halted w).2).loader = l)
      (ok : (v.loader.follow h.read v.session.position offer.branch.target
        (h.halted w).2).result = .ok found)
      (rest : Entering h found { v.choice n offer with loader := l } r) :
    Choosing h input w v r
  | unshown {cause : Failure} (unpicked : pick? v.session.offers input = none)
      (refused : h.Refuses cause) :
    Choosing h input w v ((v.mistake input).finish (.because .outputNotWritten cause))
  | exhausted (unpicked : pick? v.session.offers input = none)
      (many : 0 < v.session.maxRetries ∧ v.session.maxRetries ≤ (v.session.retries + 1 : Nat)) :
    Choosing h input w v ((v.mistake input).finish (.ofReport
      { problem := .tooManyInvalidChoices (v.session.retries + 1)
        address := v.session.eventAddress }))
  | rejected (unpicked : pick? v.session.offers input = none)
      (few : ¬(0 < v.session.maxRetries ∧ v.session.maxRetries ≤ (v.session.retries + 1 : Nat))) :
    Choosing h input w v (some (.ofReport
      { problem := .invalidChoice input v.session.offers.length
        address := v.session.eventAddress }), v.mistake input)

end View

/-- An offer is broken because its scene is not found in the same file. -/
theorem Loader.lookupFrom_of_brokenOffer? {l : Loader} {origin : Address} {offers : List Offer}
    {b : Branch} {f : Failure} (broken : l.brokenOffer? origin offers = some (b, f)) :
    ∃ module scene, l.lookupFrom origin module scene = .error f := by
  induction offers with
  | nil => cases broken
  | cons o rest ih =>
    simp only [brokenOffer?] at broken
    split at broken
    · exact ih broken
    · next module scene target =>
      split at broken
      · next missing =>
        cases broken
        exact ⟨module, scene, missing⟩
      · exact ih broken

/-- In a file that can be played, an offer is broken only for want of a module or a scene. -/
theorem Loader.brokenOffer?_code {l : Loader} {origin : Address} (plays : l.Plays origin.file)
    {offers : List Offer} {b : Branch} {f : Failure}
    (broken : l.brokenOffer? origin offers = some (b, f)) :
    f.code = .unresolvedModule ∨ f.code = .unresolvedScene := by
  obtain ⟨module, scene, missing⟩ := lookupFrom_of_brokenOffer? broken
  exact lookupFrom_code plays missing

namespace Play

section Moves

variable {σ τ : Type} [Crew τ]

/-- The answer to a move and the play after it. -/
def make (h : Host σ) (p : Play σ τ) : Move → Option Failure × Play σ τ
  | .start entry => p.start h entry
  | .choose input => p.choose h input

/-- The play after moves in turn. -/
def makeAll (h : Host σ) (p : Play σ τ) (moves : List Move) : Play σ τ :=
  moves.foldl (fun p m => (p.make h m).2) p

theorem start_of_ne (h : Host σ) (entry : Address) {p : Play σ τ}
    (started : p.session.stage ≠ .awaitingEntry) :
    p.start h entry = (some (.ofProblem (.startTwice p.session.stage)), p) :=
  if_pos started

theorem choose_of_ne (h : Host σ) (input : Text) {p : Play σ τ}
    (busy : p.session.stage ≠ .awaitingChoice) :
    p.choose h input = (some (.ofProblem (.nothingToChoose p.session.stage)), p) :=
  if_pos busy

/-- The play when the host has been asked whether it is to go on. -/
def asked (h : Host σ) (p : Play σ τ) : Play σ τ :=
  { p with world := (h.halted p.world).2 }

end Moves

variable {σ : Type}

theorem choose_of_live {h : Host σ} {input : Text} {p : Play σ}
    (waiting : p.session.stage = .awaitingChoice) (live : (h.halted p.world).1 = none) :
    p.choose h input =
      match pick? p.session.offers input with
      | some (n, offer) => (p.asked h).take h n offer
      | none => (p.asked h).reject h input := by
  rw [choose, if_neg (not_not.mpr waiting), unlessHalted]
  simp only [live]
  rfl

/-- What transcripts have been told. -/
def story (p : Play σ) : List Event :=
  p.events.filter Event.isTold

def view (p : Play σ) : View :=
  ⟨p.session, p.loader, p.story⟩

/-- The answer to a call and the view after it. -/
def seen (r : Option Failure × Play σ) : Option Failure × View :=
  (r.1, r.2.view)

/-- The play with one more event. -/
def emit (p : Play σ) (e : Event) : Play σ :=
  { p with events := p.events ++ [e] }

/-! On a list of events everything that is written down is kept as an event. -/

theorem note_eq (p : Play σ) (level : Log.Level) (message : Text)
    (fields : List (Text × Log.Value)) :
    p.note level message fields =
      p.emit (.logged ⟨level, message, ("session", .text p.session.id) :: fields⟩) :=
  rfl

theorem happen_eq (p : Play σ) (moment : Moment) (detail : Text) :
    p.happen moment detail = p.emit (.happened moment p.session.eventAddress detail) :=
  rfl

theorem announced_eq (p : Play σ) (entry : Address) :
    p.announced entry = p.emit (.began entry.text) :=
  rfl

theorem closed_eq (p : Play σ) (f : Failure) :
    p.closed f = (p.happen .ending f.text).emit (.closed f.code) :=
  rfl

theorem fetched_eq {α : Type} (p : Play σ) (f : Fetched σ α) :
    p.fetched f = { p with
      loader := f.loader, world := f.world, events := p.events ++ f.log.map .logged } := by
  suffices logged : ∀ (entries : List Log.Entry) (events : List Event),
      entries.foldl (fun tape entry => Crew.log entry tape) events =
        events ++ entries.map .logged by
    rw [fetched, logged]
  intro entries
  induction entries with
  | nil => simp
  | cons entry rest ih =>
    intro events
    rw [List.foldl_cons, ih, List.map_cons, List.append_cons]
    rfl

@[simp] theorem view_note (p : Play σ) (level : Log.Level) (message : Text)
    (fields : List (Text × Log.Value)) : (p.note level message fields).view = p.view := by
  simp [note_eq, view, story, emit, Event.isTold]

@[simp] theorem view_happen (p : Play σ) (moment : Moment) (detail : Text) :
    (p.happen moment detail).view =
      p.view.tell [.happened moment p.session.eventAddress detail] := by
  simp [happen_eq, view, story, emit, View.tell, Event.isTold]

@[simp] theorem view_announced (p : Play σ) (entry : Address) :
    (p.announced entry).view = p.view.tell [.began entry.text] := by
  simp [announced_eq, view, story, emit, View.tell, Event.isTold]

@[simp] theorem happen_session (p : Play σ) (moment : Moment) (detail : Text) :
    (p.happen moment detail).session = p.session :=
  rfl

@[simp] theorem view_closed (p : Play σ) (f : Failure) :
    (p.closed f).view = p.view.tell (p.session.farewell f) := by
  simp [closed_eq, happen_eq, view, story, emit, View.tell, Event.isTold, Session.farewell]

@[simp] theorem view_fetched {α : Type} (p : Play σ) (f : Fetched σ α) :
    (p.fetched f).view = { p.view with loader := f.loader } := by
  simp [fetched_eq, view, story, Event.isTold, List.filter_map, Function.comp_def]

@[simp] theorem view_endingNote (p : Play σ) (f : Failure) : (p.endingNote f).view = p.view := by
  unfold endingNote
  split
  · exact view_note ..
  · exact view_note ..

/-- Ending a session is the same whatever its stage was. -/
theorem seen_finish (p : Play σ) (f : Failure) : seen (p.finish f) = p.view.finish f := by
  simp only [seen, finish, view_endingNote, view_closed]
  rfl

theorem view_changes (p : Play σ) (changed : List Effect) :
    (changed.foldl (fun p e => p.happen .inventory e.text) p).view =
      p.view.tell (changed.map (.happened .inventory p.session.eventAddress ·.text)) := by
  induction changed generalizing p with
  | nil => simp [View.tell]
  | cons e rest ih =>
    rw [List.foldl_cons, ih, view_happen]
    simp [View.tell]

theorem view_arrive (p : Play σ) (found : Found) :
    (p.arrive found (p.session.inventory.applyAll found.scene.effects).1
      (p.session.inventory.applyAll found.scene.effects).2).view = p.view.arrive found := by
  simp only [arrive, view_note, view_changes, view_happen]
  simp [View.arrive, View.tell, Found.arrival, Session.arrived, Session.eventAddress, view, story,
    Inventory.applyAll_fst]

/-- What holds if the host wants the session to stop, and if it does not, holds in any case. -/
theorem seen_unlessHalted {Q : Option Failure × View → Prop} (h : Host σ) (p : Play σ)
    (next : Play σ → Option Failure × Play σ)
    (halted : ∀ cause, h.Halts cause → Q (p.view.finish (.because .sessionCancelled cause)))
    (go : Q (seen (next { p with world := (h.halted p.world).2 }))) :
    Q (seen (p.unlessHalted h next)) := by
  unfold unlessHalted
  dsimp only
  split
  · next cause asked =>
    rw [halt, seen_finish]
    exact halted cause ⟨p.world, asked⟩
  · exact go

/-- What holds if something cannot be shown, and if it can, holds in any case. -/
theorem seen_shown {Q : Option Failure × View → Prop} (p : Play σ) (result : Option Failure × σ)
    (next : Play σ → Option Failure × Play σ)
    (refused : ∀ cause, result.1 = some cause →
      Q (p.view.finish (.because .outputNotWritten cause)))
    (go : Q (seen (next { p with world := result.2 }))) : Q (seen (p.shown result next)) := by
  unfold shown
  dsimp only
  split
  · next cause failed =>
    rw [seen_finish]
    exact refused cause failed
  · exact go

theorem offerBranches_entering (h : Host σ) (found : Found) {v : View} {p : Play σ}
    (arrived : p.view = v.arrive found) : v.Entering h found (seen (p.offerBranches h found)) := by
  obtain ⟨session, loader, world, events⟩ := p
  obtain rfl : session = v.session.arrived found := congrArg View.session arrived
  obtain rfl : loader = v.loader := congrArg View.loader arrived
  unfold offerBranches
  dsimp only
  split
  · next nothing =>
    rw [seen_finish, arrived]
    exact .deadEnd (List.isEmpty_iff.mp nothing)
  · next something =>
    rw [List.isEmpty_iff] at something
    split
    · next b f missing =>
      rw [seen_finish, arrived]
      exact .broken something missing
    · next whole =>
      refine seen_shown _ _ _ (fun cause failed => ?_) ?_
      · have ended : v.Entering h found _ := .unshown ⟨_, .inr (.inl ⟨_, failed⟩)⟩
        rw [← arrived] at ended
        exact ended
      · have awaiting : v.Entering h found _ := .awaiting something whole
        rw [← arrived] at awaiting
        exact awaiting

/-- How a scene is entered does not depend on the stage or on what was offered before. -/
theorem entering_restaged {h : Host σ} {found : Found} {v : View} (stage : Stage)
    (offers : List Offer) {r : Option Failure × View}
    (entering : View.Entering h found { v with session := { v.session with stage, offers } } r) :
    v.Entering h found r := by
  cases entering with
  | halted asked => exact .halted asked
  | unshown refused => exact .unshown refused
  | deadEnd nothing => exact .deadEnd nothing
  | broken something missing => exact .broken something missing
  | awaiting something whole => exact .awaiting something whole

theorem receive_entering (h : Host σ) (found : Found) {v : View} {p : Play σ} {inv : Inventory}
    {changed : List Effect} (arrived : (p.arrive found inv changed).view = v.arrive found) :
    v.Entering h found (seen (p.receive h found inv changed)) := by
  unfold receive
  dsimp only
  split
  · refine seen_shown _ _ _ (fun cause failed => ?_) ?_
    · rw [arrived]
      exact .unshown ⟨_, .inl ⟨_, failed⟩⟩
    · exact offerBranches_entering h found arrived
  · exact offerBranches_entering h found arrived

theorem enter_entering (h : Host σ) (found : Found) (p : Play σ) :
    p.view.Entering h found (seen (p.enter h found)) := by
  refine seen_unlessHalted h _ _ (fun cause asked => .halted asked) ?_
  -- The stage is changed before the host is asked, which shows only if the session goes on.
  refine entering_restaged .presenting p.session.offers ?_
  exact receive_entering h found (view_arrive { p with
    session := { p.session with stage := .presenting }, world := (h.halted p.world).2 } found)

/-- Entering a scene that was fetched. -/
theorem fetched_entering (h : Host σ) (found : Found) (p : Play σ) {α : Type} (f : Fetched σ α) :
    View.Entering h found { p.view with loader := f.loader }
      (seen ((p.fetched f).enter h found)) := by
  rw [← view_fetched]
  exact enter_entering h found (p.fetched f)

theorem view_begun (p : Play σ) (entry : Address) :
    (p.begun entry).view = p.view.tell [.began entry.text] := by
  rw [begun, view_note, view_announced]

/-- Starting a session that has not been started turns out in one of the ways listed. -/
theorem start_starting (h : Host σ) (entry : Address) {p : Play σ}
    (fresh : p.session.stage = .awaitingEntry) :
    p.view.Starting h entry p.world (seen (p.start h entry)) := by
  unfold start
  rw [if_neg (not_not.mpr fresh)]
  -- The beginning is told even if the host wants the session to stop at once.
  refine seen_unlessHalted h (p.begun entry) _ (fun cause asked => ?_) ?_
  · rw [view_begun]
    exact .halted asked
  · unfold pursue
    split
    · next f failed =>
      rw [seen_finish, view_fetched]
      have ended : p.view.Starting h entry p.world _ := .unresolved rfl failed
      rw [← view_begun] at ended
      exact ended
    · next found ok =>
      refine .entering rfl ok ?_
      rw [← view_begun]
      exact fetched_entering h found { p.begun entry with world := _ } _

theorem view_decided (p : Play σ) (n : Nat) (offer : Offer) :
    (p.decided n offer).view = p.view.choice n offer := by
  rw [decided, view_note, view_happen]
  rfl

theorem take_choosing (h : Host σ) {input : Text} {n : Nat} {offer : Offer} {w : σ} {p : Play σ}
    (picked : pick? p.session.offers input = some (n, offer)) (world : p.world = (h.halted w).2) :
    p.view.Choosing h input w (seen (take h n offer p)) := by
  unfold take pursue
  dsimp only
  split
  · next f failed =>
    rw [seen_finish, view_fetched]
    have ended : p.view.Choosing h input w _ := .unresolved picked rfl (world ▸ failed)
    rw [← view_decided, ← world] at ended
    exact ended
  · next found ok =>
    refine .entering picked rfl (world ▸ ok) ?_
    rw [← view_decided, ← world]
    exact entering_restaged .transitioning [] (fetched_entering h found (p.leaving n offer) _)

theorem present_seen (h : Host σ) (p : Play σ) :
    (∃ cause, h.Refuses cause ∧
      seen (p.present h) = p.view.finish (.because .outputNotWritten cause)) ∨
      seen (p.present h) = (none, p.view) := by
  refine seen_shown (Q := fun r => (∃ cause, h.Refuses cause ∧
    r = p.view.finish (.because .outputNotWritten cause)) ∨ r = (none, p.view)) p _ _ ?_ ?_
  · intro cause failed
    exact .inl ⟨cause, ⟨_, .inr (.inl ⟨_, failed⟩)⟩, rfl⟩
  · exact .inr rfl

theorem insist_choosing (h : Host σ) {input : Text} {w : σ} {v : View} {p : Play σ}
    (unpicked : pick? v.session.offers input = none) (told : p.view = v.mistake input) :
    v.Choosing h input w (seen (p.insist h (.invalidChoice input v.session.offers.length)
      v.session.eventAddress)) := by
  have session : p.session = v.session.mistaken := congrArg View.session told
  unfold insist
  rw [session]
  split
  · next many =>
    rw [seen_finish, told]
    exact .exhausted unpicked many
  · next few =>
    have presented := present_seen h p
    rcases answer : p.present h with ⟨failure?, q⟩
    rw [answer, told] at presented
    rcases presented with ⟨cause, refused, ended⟩ | shown
    · obtain ⟨rfl, after⟩ := Prod.mk.inj ended
      have ending : v.Choosing h input w _ := .unshown unpicked refused
      rw [← ended] at ending
      exact ending
    · obtain ⟨rfl, after⟩ := Prod.mk.inj shown
      have ending : v.Choosing h input w _ := .rejected unpicked few
      rw [← after] at ending
      exact ending

theorem view_mistaken (p : Play σ) (input : Text) :
    (p.mistaken input).view = p.view.mistake input := by
  rw [mistaken, view_note, view_happen]
  rfl

theorem reject_choosing (h : Host σ) {input : Text} {w : σ} {p : Play σ}
    (unpicked : pick? p.session.offers input = none) :
    p.view.Choosing h input w (seen (reject h input p)) := by
  refine seen_shown (p.mistaken input) _ _ (fun cause failed => ?_) ?_
  · rw [view_mistaken]
    exact .unshown unpicked ⟨_, .inr (.inr ⟨_, failed⟩)⟩
  · exact insist_choosing h unpicked (view_mistaken p input)

/-- An input to a session that waits for one turns out in one of the ways listed. -/
theorem choose_choosing (h : Host σ) (input : Text) {p : Play σ}
    (waiting : p.session.stage = .awaitingChoice) :
    p.view.Choosing h input p.world (seen (p.choose h input)) := by
  unfold choose
  rw [if_neg (not_not.mpr waiting)]
  refine seen_unlessHalted h _ _ (fun cause asked => .halted asked) ?_
  dsimp only
  split
  · next n offer picked =>
    exact take_choosing (p := { p with world := (h.halted p.world).2 }) h picked rfl
  · next unpicked =>
    exact reject_choosing (p := { p with world := (h.halted p.world).2 }) h unpicked

end Play

end Gamebook
