import Gamebook.Inventory
import Gamebook.Loader
import Gamebook.Text.Blank
import Gamebook.Text.Numeral

/-! # Sessions

A session plays a story: it enters scenes, offers their branches and follows the player's choices.
Everything outside the session is a host that reads files, shows what is to be shown and may call
the session off at any moment; its calls may fail. What happens is written down by a crew, whose calls
may fail too: the session then says so in its log, and goes on.
-/

namespace Gamebook

/-- A branch as it is offered. -/
structure Choice where
  /-- Choices are numbered from one. -/
  index : Int
  label : Text
  deriving DecidableEq, Repr, Inhabited

/-- A choice with the branch it stands for. -/
structure Offer where
  choice : Choice
  branch : Branch
  deriving DecidableEq, Repr, Inhabited

/-- The outside of a session: how it behaves in a world of type `σ`, which every call may change. -/
structure Host (σ : Type) where
  /-- Tells why the session is to stop, if it is. It may be called off between any two of these
      questions. -/
  halted : σ → Option Failure × σ
  read : ReadFile σ
  /-- Shows the lines of a scene. -/
  tell : List Text → σ → Option Failure × σ
  /-- Shows the choices. -/
  offer : List Choice → σ → Option Failure × σ
  /-- Shows why an input is not accepted. -/
  complain : Text → σ → Option Failure × σ

/-- What happens in a session, as transcripts keep it. -/
inductive Moment where
  | enter
  | inventory
  | choice
  | invalidChoice
  | ending
  deriving DecidableEq, Repr, Inhabited

/-- The name of a moment. -/
def Moment.text : Moment → Text
  | .enter => "enter"
  | .inventory => "inventory"
  | .choice => "choice"
  | .invalidChoice => "invalid_choice"
  | .ending => "end"

/-- What a session leaves behind, for those who record it. -/
inductive Event where
  /-- The session begins at an entry. -/
  | began (entry : Text)
  /-- Something happened, at the address of the current scene. -/
  | happened (moment : Moment) (address detail : Text)
  /-- The session is over. -/
  | closed (outcome : Code)
  /-- An entry for the log. -/
  | logged (entry : Log.Entry)
  deriving DecidableEq, Repr, Inhabited

/-- A session between two steps. -/
structure Session where
  id : Text
  /-- How many invalid choices in a row end the session. None do if this is not positive. -/
  maxRetries : Int := 0
  stage : Stage := .awaitingEntry
  /-- The scene that the player is in. -/
  current : Option Found := none
  inventory : Inventory := {}
  /-- What is offered to the player. -/
  offers : List Offer := []
  /-- How many invalid choices in a row the player has made. -/
  retries : Nat := 0
  /-- Why the session is over. -/
  ending : Option Failure := none
  deriving DecidableEq, Repr, Inhabited

namespace Session

/-- The address of the current scene; it is empty before the entry. -/
def position (s : Session) : Address :=
  match s.current with
  | some found => found.address
  | none => {}

/-- The choices offered to the player. -/
def choices (s : Session) : List Choice :=
  s.offers.map Offer.choice

/-- The session ended by a failure. -/
def finished (s : Session) (f : Failure) : Session :=
  { s with stage := .ended, ending := some f, offers := [] }

/-- The session with one more invalid choice. -/
def mistaken (s : Session) : Session :=
  { s with retries := s.retries + 1 }

/-- The address with which events are kept. -/
def eventAddress (s : Session) : Text :=
  match s.current with
  | some found => found.address.text
  | none => []

end Session

/-- The branches that may be taken with an inventory, numbered from `first`. -/
def offersFrom (inv : Inventory) (first : Nat) : List Branch → List Offer
  | [] => []
  | b :: rest =>
    if b.guard.all inv.meets then ⟨⟨first, b.label⟩, b⟩ :: offersFrom inv (first + 1) rest
    else offersFrom inv first rest

/-- The branches of a scene that may be taken with an inventory, numbered from one. -/
def Scene.offers (s : Scene) (inv : Inventory) : List Offer :=
  offersFrom inv 1 s.branches

/-- The first offer that leads to a scene missing in the same file, and why it does. -/
def Loader.brokenOffer? (l : Loader) (origin : Address) (offers : List Offer)
    (look : Lookup := lookup) : Option (Branch × Failure) :=
  match offers with
  | [] => none
  | o :: rest =>
    match o.branch.target with
    | .otherFile .. => l.brokenOffer? origin rest look
    | .sameFile module scene =>
      match l.lookupFrom origin module scene look with
      | .error failure => some (o.branch, failure)
      | .ok _ => l.brokenOffer? origin rest look

/-- The failure that a scene without anything to offer ends a session with. -/
def Found.deadEnd (found : Found) : Failure :=
  .ofReport
    { problem := .noOptionAvailable found.scene.name
      place := .ofPos found.address.file found.scene.pos
      address := found.address.text }

/-- A failure to follow a branch of a file. -/
def Branch.locate (b : Branch) (file : Text) (f : Failure) : Failure :=
  f.placed (.ofPos file b.pos)

/-- The number of the offer that an input picks: a decimal integer in range, blanks around it
    aside. -/
def pick? (offers : List Offer) (input : Text) : Option (Nat × Offer) := do
  let i ← Text.toInt? input.trim
  if i < 1 then none
  else
    let n := i.toNat
    return (n, ← offers[n - 1]?)

/-- Who serves a session: they look scenes up, and they write down what happens, on a tape of type
    `τ`. Whether they could write something down is told to the session. -/
class Crew (τ : Type) where
  /-- How scenes are looked up in files that have been read. -/
  look : Lookup
  /-- Has it written down that a session begins at an entry. -/
  start : (id entry : Text) → τ → Option Failure × τ
  /-- Keeps in mind that this was done. -/
  confirm : τ → τ
  /-- Whether this was done. -/
  began : τ → Bool
  /-- Has it written down that something happened at an address. -/
  append : (id : Text) → Moment → (address detail : Text) → τ → Option Failure × τ
  /-- Has it written down that a session is over. -/
  close : (id : Text) → Code → τ → Option Failure × τ
  /-- Adds an entry to the log. -/
  log : Log.Entry → τ → τ

/-- All that happens is kept as a list of events. -/
@[reducible]
def Crew.chronicle (look : Lookup) : Crew (List Event) where
  look := look
  start _ entry events := (none, events ++ [.began entry])
  confirm events := events
  began _ := true
  append _ moment address detail events := (none, events ++ [.happened moment address detail])
  close _ outcome events := (none, events ++ [.closed outcome])
  log entry events := events ++ [.logged entry]

instance : Crew (List Event) :=
  .chronicle Loader.lookup

/-- A session in its world, with the tape on which it is written down: the list of its events, if
    nothing else is said. -/
structure Play (σ : Type) (τ : Type := List Event) where
  session : Session
  loader : Loader
  world : σ
  events : τ := by exact []

namespace Play

variable {σ τ : Type} [Crew τ]

/-- The play with an entry of the session's log. -/
def note (p : Play σ τ) (level : Log.Level) (message : Text) (fields : List (Text × Log.Value)) :
    Play σ τ :=
  let entry : Log.Entry := ⟨level, message, ("session", .text p.session.id) :: fields⟩
  { p with events := Crew.log entry p.events }

/-- The play with a warning that something could not be written down. -/
def warn (p : Play σ τ) (message : Text) (fields : List (Text × Log.Value)) (failure : Failure) :
    Play σ τ :=
  let cause : Text × Log.Value := ("error", .text failure.text)
  p.note .warn message (fields ++ [cause])

/-- The play after something was to be written down. -/
def written (p : Play σ τ) (result : Option Failure × τ) (message : Text)
    (fields : List (Text × Log.Value)) : Play σ τ :=
  match result with
  | (some failure, tape) => { p with events := tape }.warn message fields failure
  | (none, tape) => { p with events := tape }

/-- The play when the beginning was to be written down. Only if that was done is anything else. -/
def announced (p : Play σ τ) (entry : Address) : Play σ τ :=
  match Crew.start p.session.id entry.text p.events with
  | (some failure, tape) => { p with events := tape }.warn "transcript begin failed" [] failure
  | (none, tape) => { p with events := Crew.confirm tape }

/-- The play with something that happened in the current scene. -/
def happen (p : Play σ τ) (moment : Moment) (detail : Text) : Play σ τ :=
  if Crew.began p.events then
    p.written (Crew.append p.session.id moment p.session.eventAddress detail p.events)
      "transcript append failed" [("kind", .text moment.text)]
  else p

/-- The play of a session that a failure has ended. -/
def closed (p : Play σ τ) (failure : Failure) : Play σ τ :=
  if Crew.began p.events then
    let p := p.happen .ending failure.text
    p.written (Crew.close p.session.id failure.code p.events) "transcript end failed" []
  else p

/-- The play after a file was asked for. -/
def fetched {α : Type} (p : Play σ τ) (f : Fetched σ α) : Play σ τ :=
  { p with
    loader := f.loader
    world := f.world
    events := f.log.foldl (fun tape entry => Crew.log entry tape) p.events }

/-- What the log says about the end of a session. -/
def endingNote (p : Play σ τ) (failure : Failure) : Play σ τ :=
  let files := (("files", .texts p.loader.paths) : Text × Log.Value)
  if failure.code = .cancelled then
    p.note .info "session cancelled" [("position", .text p.session.position.text), files]
  else
    p.note .warn "session ended"
      [("code", .text failure.code.text), ("error", .text failure.text), files]

/-- Ends the session. -/
def finish (p : Play σ τ) (failure : Failure) : Option Failure × Play σ τ :=
  let p := { p with session := p.session.finished failure }
  (some failure, (p.closed failure).endingNote failure)

/-- Ends the session because the host wants it to stop. -/
def halt (p : Play σ τ) (cause : Failure) : Option Failure × Play σ τ :=
  p.finish (.because .sessionCancelled cause)

/-- Goes on, unless the host wants the session to stop. -/
def unlessHalted (h : Host σ) (p : Play σ τ) (next : Play σ τ → Option Failure × Play σ τ) :
    Option Failure × Play σ τ :=
  let (cause?, world) := h.halted p.world
  let p := { p with world }
  match cause? with
  | some cause => p.halt cause
  | none => next p

/-- The play in a new world, unless something could not be shown. -/
def shown (p : Play σ τ) (result : Option Failure × σ)
    (next : Play σ τ → Option Failure × Play σ τ) : Option Failure × Play σ τ :=
  let p := { p with world := result.2 }
  match result.1 with
  | some cause => p.finish (.because .outputNotWritten cause)
  | none => next p

/-- Shows what is offered. -/
def present (h : Host σ) (p : Play σ τ) : Option Failure × Play σ τ :=
  p.shown (h.offer p.session.choices p.world) fun p => (none, p)

/-- Offers the branches of the current scene, which is `found`. -/
def offerBranches (h : Host σ) (found : Found) (p : Play σ τ) : Option Failure × Play σ τ :=
  let offers := found.scene.offers p.session.inventory
  if offers.isEmpty then p.finish found.deadEnd
  else
    match p.loader.brokenOffer? found.address offers (Crew.look τ) with
    | some (branch, failure) => p.finish (branch.locate found.address.file failure)
    | none =>
      present h { p with session := { p.session with offers, stage := .awaitingChoice } }

/-- The play in a scene whose effects have been applied. -/
def arrive (found : Found) (inventory : Inventory) (changed : List Effect) (p : Play σ τ) :
    Play σ τ :=
  let p := { p with session := { p.session with current := some found, inventory, retries := 0 } }
  let p := changed.foldl (fun p e => p.happen .inventory e.text) (p.happen .enter [])
  p.note .debug "entered scene"
    [("address", .text found.address.text), ("changes", .texts (changed.map Effect.text)),
     ("inventory", .texts inventory.items)]

/-- Tells the lines of a scene whose effects have been applied, and offers its branches. -/
def receive (h : Host σ) (found : Found) (inventory : Inventory) (changed : List Effect)
    (p : Play σ τ) : Option Failure × Play σ τ :=
  let p := p.arrive found inventory changed
  match found.scene.flavortext with
  | some lines => p.shown (h.tell lines p.world) (offerBranches h found)
  | none => p.offerBranches h found

/-- Enters a scene: applies its effects, tells its lines and offers its branches. The effects count
    only if the host lets the session go on. -/
def enter (h : Host σ) (found : Found) (p : Play σ τ) : Option Failure × Play σ τ :=
  let p := { p with session := { p.session with stage := .presenting } }
  let (inventory, changed) := p.session.inventory.applyAll found.scene.effects
  p.unlessHalted h (receive h found inventory changed)

/-- Goes on with a scene that was asked for, or ends the session for want of it. -/
def pursue (h : Host σ) (f : Fetched σ Found) (locate : Failure → Failure) (p : Play σ τ) :
    Option Failure × Play σ τ :=
  match f.result with
  | .error failure => (p.fetched f).finish (locate failure)
  | .ok found => (p.fetched f).enter h found

/-- The play when it has been started and nothing else. -/
def begun (p : Play σ τ) (entry : Address) : Play σ τ :=
  (p.announced entry).note .info "session started" [("entry", .text entry.text)]

/-- Starts the session at an entry. -/
def start (h : Host σ) (entry : Address) (p : Play σ τ) : Option Failure × Play σ τ :=
  if p.session.stage ≠ .awaitingEntry then
    (some (.ofProblem (.startTwice p.session.stage)), p)
  else
    (p.begun entry).unlessHalted h fun p =>
      p.pursue h (p.loader.resolve h.read entry p.world) id

/-- The play when an input has been turned down and nothing shown yet. -/
def mistaken (p : Play σ τ) (input : Text) : Play σ τ :=
  let p := { p with session := p.session.mistaken }
  (p.happen .invalidChoice input).note .debug "invalid choice"
    [("input", .text input), ("retries", .number p.session.retries)]

/-- Shows the choices again to a player whose input is turned down for a problem, unless there have
    been too many of these in a row. -/
def insist (h : Host σ) (problem : Problem) (address : Text) (p : Play σ τ) :
    Option Failure × Play σ τ :=
  if 0 < p.session.maxRetries ∧ p.session.maxRetries ≤ p.session.retries then
    p.finish (.ofReport { problem := .tooManyInvalidChoices p.session.retries, address })
  else
    match p.present h with
    | (some failure, p) => (some failure, p)
    | (none, p) => (some (.ofReport { problem, address }), p)

/-- Turns an input down. -/
def reject (h : Host σ) (input : Text) (p : Play σ τ) : Option Failure × Play σ τ :=
  let problem : Problem := .invalidChoice input p.session.offers.length
  let address := p.session.eventAddress
  let p := p.mistaken input
  p.shown (h.complain problem.message p.world) (insist h problem address)

/-- The play when a choice has been accepted and not followed yet. -/
def decided (p : Play σ τ) (n : Nat) (offer : Offer) : Play σ τ :=
  (p.happen .choice (Text.ofNat n ++ ": " ++ offer.choice.label)).note .debug "choice"
    [("index", .number n), ("label", .text offer.choice.label),
     ("target", .text offer.branch.target.text)]

/-- The play in which a scene is being left by an offer. -/
def leaving (p : Play σ τ) (n : Nat) (offer : Offer) : Play σ τ :=
  let p := p.decided n offer
  { p with session := { p.session with stage := .transitioning, offers := [] } }

/-- Follows the branch of an offer. -/
def take (h : Host σ) (n : Nat) (offer : Offer) (p : Play σ τ) : Option Failure × Play σ τ :=
  let origin := p.session.position
  let p := p.leaving n offer
  p.pursue h (p.loader.follow h.read origin offer.branch.target p.world (Crew.look τ))
    (offer.branch.locate origin.file)

/-- Takes an input of the player. -/
def choose (h : Host σ) (input : Text) (p : Play σ τ) : Option Failure × Play σ τ :=
  if p.session.stage ≠ .awaitingChoice then
    (some (.ofProblem (.nothingToChoose p.session.stage)), p)
  else
    p.unlessHalted h fun p =>
      match pick? p.session.offers input with
      | some (n, offer) => p.take h n offer
      | none => p.reject h input

/-- Calls the session off. Nothing happens once it is over. -/
def cancel (p : Play σ τ) : Play σ τ :=
  if p.session.stage = .ended then p else (p.finish (.ofProblem .sessionCancelled)).2

end Play

end Gamebook
