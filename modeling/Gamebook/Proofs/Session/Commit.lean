import Gamebook.Proofs.Recording
import Gamebook.Proofs.Session.Invariant

/-! # A call enters a scene altogether or not at all

Position and inventory change together, when a scene is entered and all of its effects have been
applied, or not at all. The change is also what transcripts are told of: an event of kind "enter" is
left behind exactly if it was made. The point of no return is `View.arrive`; whatever the host does
before it leaves both as they were, and whatever it does after it leaves both changed.
-/

namespace Gamebook

/-- Codes of failures after which no scene was entered. -/
def Code.turnsBack : Code → Bool
  | .cancelled | .invalidChoice | .retriesExhausted => true
  | .lexical | .structural | .unresolvedFile => true
  | _ => false

def Event.isEnter : Event → Bool
  | .happened .enter _ _ => true
  | _ => false

theorem Event.kind?_eq_enter (e : Event) :
    e.kind? = some Moment.enter.text ↔ e.isEnter = true := by
  cases e with
  | happened moment address detail =>
    cases moment with
    | enter => simp [kind?, isEnter]
    | inventory => simp [kind?, isEnter]; decide
    | choice => simp [kind?, isEnter]; decide
    | invalidChoice => simp [kind?, isEnter]; decide
    | ending => simp [kind?, isEnter]; decide
  | began entry => simp [kind?, isEnter]
  | closed outcome => simp [kind?, isEnter]
  | logged entry => simp [kind?, isEnter]

namespace Session

/-- That a session is where it was, with what it held. -/
def Stays (before after : Session) : Prop :=
  after.position = before.position ∧ after.inventory = before.inventory

/-- That a session has entered a scene and all effects of the scene have been applied in turn. -/
def Moves (before after : Session) (found : Found) : Prop :=
  after.position = found.address ∧
    after.inventory = found.scene.effects.foldl Inventory.apply before.inventory

end Session

namespace View

variable {σ : Type} {h : Host σ} {v : View} {r : Option Failure × View}

/-- How a call that could lead to a scene turned out for a session: whether the scene was entered,
    with the answer that was given and the events that were told. -/
inductive Outcome (s : Session) (destination : Option Found) (r : Option Failure × View)
    (told : List Event) : Prop where
  | stayed {f : Failure} (answer : r.1 = some f) (code : f.code ≠ .deadEnd)
      (stays : s.Stays r.2.session) (silent : ∀ e ∈ told, e.isEnter = false)
  | moved {found : Found} (there : destination = some found) (moves : s.Moves r.2.session found)
      (code : ∀ f, r.1 = some f → f.code.turnsBack = false)
      (entered : ∃ e ∈ told, e.isEnter = true)

theorem Outcome.cons {s : Session} {destination : Option Found} {told : List Event}
    (outcome : Outcome s destination r told) {e : Event} (silent : e.isEnter = false) :
    Outcome s destination r (e :: told) := by
  cases outcome with
  | stayed answer code stays others =>
    exact .stayed answer code stays (by simpa [silent] using others)
  | moved there moves code entered =>
    obtain ⟨e', member, enters⟩ := entered
    exact .moved there moves code ⟨e', List.mem_cons_of_mem e member, enters⟩

theorem mem_farewell {s : Session} {f : Failure} {e : Event} (member : e ∈ s.farewell f) :
    e.isEnter = false ∧ e.begins = false := by
  simp only [Session.farewell, List.mem_cons, List.not_mem_nil, or_false] at member
  rcases member with rfl | rfl
  · exact ⟨rfl, rfl⟩
  · exact ⟨rfl, rfl⟩

theorem mem_arrival {found : Found} {inv : Inventory} {e : Event} (member : e ∈ found.arrival inv) :
    e.begins = false := by
  simp only [Found.arrival, List.mem_cons, List.mem_map] at member
  rcases member with rfl | ⟨change, -, rfl⟩
  · rfl
  · rfl

/-- A call and the events it told of, none of which is a beginning. -/
def TurnsOut (v : View) (destination : Option Found) (r : Option Failure × View) : Prop :=
  ∃ told, r.2.story = v.story ++ told ∧ (∀ e ∈ told, e.begins = false) ∧
    Outcome v.session destination r told

theorem turnsOut_finish (destination : Option Found) {f : Failure} (code : f.code ≠ .deadEnd) :
    v.TurnsOut destination (v.finish f) :=
  ⟨_, rfl, fun _ member => (mem_farewell member).2,
    .stayed rfl code ⟨rfl, rfl⟩ fun _ member => (mem_farewell member).1⟩

theorem turnsOut_arrived (found : Found) {f : Failure} (code : f.code.turnsBack = false) :
    v.TurnsOut (some found) ((v.arrive found).finish f) := by
  refine ⟨_, List.append_assoc .., fun e member => ?_, .moved rfl ⟨rfl, rfl⟩ ?_ ?_⟩
  · rcases List.mem_append.mp member with arrival | farewell
    · exact mem_arrival arrival
    · exact (mem_farewell farewell).2
  · intro other same
    cases same
    exact code
  · exact ⟨_, List.mem_append_left _ List.mem_cons_self, rfl⟩

theorem Entering.turnsOut {found : Found} (here : v.loader.Plays found.address.file)
    (entering : v.Entering h found r) : v.TurnsOut (some found) r := by
  -- All cases but the first come after the effects have been applied.
  cases entering with
  | halted asked => exact turnsOut_finish _ (by simp [Problem.code])
  | unshown refused => exact turnsOut_arrived found rfl
  | deadEnd nothing => exact turnsOut_arrived found rfl
  | broken something missing =>
    refine turnsOut_arrived found ?_
    rw [Branch.locate, Failure.code_placed]
    rcases Loader.brokenOffer?_code here missing with code | code
    · rw [code]
      rfl
    · rw [code]
      rfl
  | awaiting something whole =>
    refine ⟨_, rfl, fun e member => mem_arrival member, .moved rfl ⟨rfl, rfl⟩ ?_ ?_⟩
    · intro f answer
      cases answer
    · exact ⟨_, List.mem_cons_self, rfl⟩

/-- A call with the events it told of, of which only the first may be a beginning. -/
def Told (v : View) (destination : Option Found) (r : Option Failure × View) : Prop :=
  ∃ told, r.2.story = v.story ++ told ∧ (∀ e ∈ told.tail, e.begins = false) ∧
    Outcome v.session destination r told

theorem TurnsOut.told {destination : Option Found} {e : Event} {l : Loader}
    (turnsOut : TurnsOut { v.tell [e] with loader := l } destination r)
    (silent : e.isEnter = false) : v.Told destination r := by
  obtain ⟨told, story, later, outcome⟩ := turnsOut
  exact ⟨e :: told, by simpa [View.tell] using story, later, outcome.cons silent⟩

theorem told_finish (destination : Option Found) {f : Failure} (code : f.code ≠ .deadEnd) :
    v.Told destination (v.finish f) := by
  obtain ⟨told, story, later, outcome⟩ := turnsOut_finish (v := v) destination code
  exact ⟨told, story, fun e member => later e (List.mem_of_mem_tail member), outcome⟩

/-- An input that is turned down leaves the session where it was. -/
theorem told_mistake (destination : Option Found) (input : Text) {f : Failure}
    (code : f.code ≠ .deadEnd) : v.Told destination ((v.mistake input).finish f) := by
  obtain ⟨told, story, later, outcome⟩ := turnsOut_finish (v := v.mistake input) destination code
  refine ⟨_ :: told, by simpa [View.mistake, View.tell] using story, later, Outcome.cons ?_ rfl⟩
  cases outcome with
  | stayed answer code stays silent => exact .stayed answer code stays silent
  | moved there moves code entered => exact .moved there moves code entered

theorem Starting.told {entry : Address} {w : σ} (kept : v.loader.ReadFrom fun _ _ => True)
    (starting : v.Starting h entry w r) :
    v.Told (v.loader.resolve h.read entry (h.halted w).2).result.toOption r := by
  have after : (v.loader.resolve h.read entry (h.halted w).2).loader.ReadFrom fun _ _ => True :=
    kept.load h.read entry.file _ fun _ _ _ _ => trivial
  cases starting with
  | halted asked =>
    exact TurnsOut.told (l := v.loader) (turnsOut_finish _ (by simp [Problem.code])) rfl
  | unresolved loader failed =>
    exact TurnsOut.told (turnsOut_finish _ (Loader.resolve_code after failed).ne_deadEnd) rfl
  | entering loader ok rest =>
    have here := Loader.resolve_plays after ok
    rw [loader] at here
    rw [ok]
    exact (rest.turnsOut here).told rfl

theorem Choosing.told {input : Text} {w : σ} (kept : v.loader.ReadFrom fun _ _ => True)
    (plays : v.loader.Plays v.session.position.file) (choosing : v.Choosing h input w r) :
    v.Told ((pick? v.session.offers input).bind fun picked =>
      (v.loader.follow h.read v.session.position picked.2.branch.target
        (h.halted w).2).result.toOption) r := by
  have after (offer : Offer) : (v.loader.follow h.read v.session.position offer.branch.target
      (h.halted w).2).loader.ReadFrom fun _ _ => True :=
    kept.follow fun _ _ _ _ => trivial
  cases choosing with
  | halted asked => exact told_finish _ (by simp [Problem.code])
  | @unresolved n offer f l picked loader failed =>
    refine TurnsOut.told (turnsOut_finish _ ?_) rfl
    rw [Branch.locate, Failure.code_placed]
    exact (Loader.follow_code (after offer) plays failed).ne_deadEnd
  | @entering n offer found l r picked loader ok rest =>
    have here := Loader.follow_plays (after offer) plays ok
    rw [loader] at here
    rw [picked, Option.bind_some, ok]
    exact (rest.turnsOut here).told rfl
  | unshown unpicked refused => exact told_mistake _ input (by simp [Problem.code])
  | exhausted unpicked many => exact told_mistake _ input (by simp [Problem.code])
  | rejected unpicked few =>
    refine ⟨_, rfl, by simp, .stayed rfl (by simp [Problem.code]) ⟨rfl, rfl⟩ ?_⟩
    simp [Event.isEnter]

end View

namespace Play

variable {σ : Type}

/-- The scene that a move leads to, if there is one and its file can be read. -/
def destination? (h : Host σ) (p : Play σ) : Move → Option Found
  | .start entry => (p.loader.resolve h.read entry (h.halted p.world).2).result.toOption
  | .choose input =>
    (pick? p.session.offers input).bind fun picked =>
      (p.loader.follow h.read p.session.position picked.2.branch.target
        (h.halted p.world).2).result.toOption

theorem make_told {p : Play σ} (sound : p.view.Sound) (h : Host σ) (m : Move) :
    p.view.Told (p.destination? h m) (seen (p.make h m)) := by
  by_cases expected : p.session.Expects m
  · cases m with
    | start entry => exact (start_starting h entry expected).told sound.grounds.kept
    | choose input =>
      exact (choose_choosing h input expected).told sound.grounds.kept
        (sound.plays_position expected)
  · obtain ⟨f, same, code⟩ := make_of_not_expects h expected
    rw [same]
    exact ⟨[], (List.append_nil _).symm, by simp, .stayed rfl (by simp [code]) ⟨rfl, rfl⟩ (by simp)⟩

end Play

/-! Events are only ever added, so what a call told of is what was added to the events. -/

namespace Play

variable {σ : Type} {events : List Event} {p : Play σ}

theorem prefix_emit (kept : events <+: p.events) (e : Event) : events <+: (p.emit e).events :=
  kept.trans (List.prefix_append ..)

theorem prefix_fetched {α : Type} (kept : events <+: p.events) (f : Fetched σ α) :
    events <+: (p.fetched f).events := by
  rw [fetched_eq]
  exact kept.trans (List.prefix_append ..)

theorem prefix_finish (kept : events <+: p.events) (f : Failure) :
    events <+: (p.finish f).2.events := by
  unfold finish endingNote
  dsimp only
  split
  · exact prefix_emit (prefix_emit (prefix_emit kept _) _) _
  · exact prefix_emit (prefix_emit (prefix_emit kept _) _) _

theorem prefix_unlessHalted (h : Host σ) {next : Play σ → Option Failure × Play σ}
    (kept : events <+: p.events)
    (go : events <+: (next { p with world := (h.halted p.world).2 }).2.events) :
    events <+: (p.unlessHalted h next).2.events := by
  unfold unlessHalted
  dsimp only
  split
  · apply prefix_finish
    exact kept
  · exact go

theorem prefix_shown {result : Option Failure × σ} {next : Play σ → Option Failure × Play σ}
    (kept : events <+: p.events) (go : events <+: (next { p with world := result.2 }).2.events) :
    events <+: (p.shown result next).2.events := by
  unfold shown
  dsimp only
  split
  · apply prefix_finish
    exact kept
  · exact go

theorem prefix_present (h : Host σ) (kept : events <+: p.events) :
    events <+: (p.present h).2.events :=
  prefix_shown kept kept

theorem prefix_offerBranches (h : Host σ) (found : Found) (kept : events <+: p.events) :
    events <+: (p.offerBranches h found).2.events := by
  unfold offerBranches
  dsimp only
  split
  · exact prefix_finish kept _
  · split
    · exact prefix_finish kept _
    · apply prefix_present
      exact kept

theorem prefix_changes (changed : List Effect) (kept : events <+: p.events) :
    events <+: (changed.foldl (fun p e => p.happen .inventory e.text) p).events := by
  induction changed generalizing p with
  | nil => exact kept
  | cons e rest ih => exact ih (prefix_emit kept _)

theorem prefix_arrive (found : Found) (inventory : Inventory) (changed : List Effect)
    (kept : events <+: p.events) : events <+: (p.arrive found inventory changed).events := by
  apply prefix_emit
  apply prefix_changes
  apply prefix_emit
  exact kept

theorem prefix_receive (h : Host σ) {found : Found} {inventory : Inventory} {changed : List Effect}
    (arrived : events <+: (p.arrive found inventory changed).events) :
    events <+: (p.receive h found inventory changed).2.events := by
  unfold receive
  dsimp only
  split
  · apply prefix_shown arrived
    apply prefix_offerBranches
    exact arrived
  · exact prefix_offerBranches h found arrived

theorem prefix_enter (h : Host σ) (found : Found) (kept : events <+: p.events) :
    events <+: (p.enter h found).2.events := by
  apply prefix_unlessHalted
  · exact kept
  · apply prefix_receive
    apply prefix_arrive
    exact kept

theorem prefix_pursue (h : Host σ) (f : Fetched σ Found) (locate : Failure → Failure)
    (kept : events <+: p.events) : events <+: (p.pursue h f locate).2.events := by
  unfold pursue
  split
  · exact prefix_finish (prefix_fetched kept f) _
  · exact prefix_enter h _ (prefix_fetched kept f)

theorem prefix_start (h : Host σ) (entry : Address) (p : Play σ) :
    p.events <+: (p.start h entry).2.events := by
  unfold start
  split
  · exact List.prefix_refl _
  · have kept : p.events <+: (p.begun entry).events :=
      prefix_emit (prefix_emit (List.prefix_refl _) _) _
    apply prefix_unlessHalted h kept
    apply prefix_pursue
    exact kept

theorem prefix_take_of_decided (h : Host σ) {n : Nat} {offer : Offer}
    (told : events <+: (p.decided n offer).events) : events <+: (p.take h n offer).2.events :=
  prefix_pursue (p := p.leaving n offer) h _ _ told

theorem prefix_take (h : Host σ) (n : Nat) (offer : Offer) (kept : events <+: p.events) :
    events <+: (p.take h n offer).2.events :=
  prefix_take_of_decided h (prefix_emit (prefix_emit kept _) _)

theorem prefix_insist (h : Host σ) (problem : Problem) (address : Text)
    (kept : events <+: p.events) : events <+: (p.insist h problem address).2.events := by
  unfold insist
  split
  · exact prefix_finish kept _
  · have presented := prefix_present h kept
    split
    · next answer => exact (congrArg (events <+: ·.2.events) answer).mp presented
    · next answer => exact (congrArg (events <+: ·.2.events) answer).mp presented

theorem prefix_reject_of_mistaken (h : Host σ) {input : Text}
    (told : events <+: (p.mistaken input).events) : events <+: (p.reject h input).2.events := by
  apply prefix_shown told
  apply prefix_insist
  exact told

theorem prefix_reject (h : Host σ) (input : Text) (kept : events <+: p.events) :
    events <+: (p.reject h input).2.events := by
  apply prefix_reject_of_mistaken
  apply prefix_emit
  apply prefix_emit
  exact kept

/-- No move takes back an event. -/
theorem prefix_make (h : Host σ) (p : Play σ) (m : Move) :
    p.events <+: (p.make h m).2.events := by
  cases m with
  | start entry => exact prefix_start h entry p
  | choose input =>
    rw [make, choose]
    split
    · exact List.prefix_refl _
    · apply prefix_unlessHalted h (List.prefix_refl _)
      dsimp only
      split
      · apply prefix_take
        exact List.prefix_refl _
      · apply prefix_reject
        exact List.prefix_refl _

/-- What a call told of is what it added to the events, the log aside. -/
theorem filter_added {q : Play σ} {told added : List Event} (story : q.story = p.story ++ told)
    (grown : p.events ++ added = q.events) : added.filter Event.isTold = told := by
  rw [Play.story, ← grown, List.filter_append] at story
  exact List.append_cancel_left story

end Play

/-- A move enters the scene it leads to altogether or not at all, whatever its host does meanwhile.
    It does not if it is refused for one of the codes that turn back, and it does if it is accepted
    or leads to a dead end. If the start of the session was recorded, an entry of kind "enter" is
    asked for exactly if the scene was entered. -/
theorem move_all_or_nothing {σ : Type} {p : Play σ} (reachable : p.Reachable) (h : Host σ)
    (m : Move) :
    let answer := (p.make h m).1
    let after := (p.make h m).2
    let stays := p.session.Stays after.session
    let moves := ∃ found, p.destination? h m = some found ∧ p.session.Moves after.session found
    (stays ∨ moves) ∧
    (∀ f, answer = some f → f.code.turnsBack = true → stays) ∧
    ((answer = none ∨ ∃ f, answer = some f ∧ f.code = .deadEnd) → moves) ∧
    ∃ added, after.events = p.events ++ added ∧
      ∀ {ρ : Type} (recorder : Transcript.Recorder ρ) (began : Bool) (keeper : ρ),
        let recording := (Transcript.Recording.recordAll recorder.noting p.session.id
          ⟨began, keeper, []⟩ added).2
        recording.began = true →
          (Moment.enter.text ∈ recording.keeper.2 → moves) ∧
          (Moment.enter.text ∉ recording.keeper.2 → stays) := by
  intro answer after stays moves
  obtain ⟨told, story, once, outcome⟩ := Play.make_told reachable.sound h m
  obtain ⟨added, grown⟩ := Play.prefix_make h p m
  -- A recorder is given the events that were added, and hears of the told ones among them.
  have tells : added.filter Event.isTold = told := Play.filter_added story grown
  have asked {ρ : Type} (recorder : Transcript.Recorder ρ) (began : Bool) (keeper : ρ) :
      let recording := (Transcript.Recording.recordAll recorder.noting p.session.id
        ⟨began, keeper, []⟩ added).2
      recording.began = true →
        (Moment.enter.text ∈ recording.keeper.2 ↔ ∃ e ∈ told, e.isEnter = true) := by
    intro recording recorded
    simp only [recording, ← Transcript.Recording.recordAll_told _ _ _ added, tells] at recorded ⊢
    simp only [Transcript.Recording.mem_noted_iff recorder _ began keeper once recorded,
      Event.kind?_eq_enter]
  cases outcome with
  | stayed refused code unchanged silent =>
    refine ⟨.inl unchanged, fun _ _ _ => unchanged, ?_, added, grown.symm, ?_⟩
    · rintro (accepted | ⟨f, deadEnd, same⟩)
      · cases refused.symm.trans accepted
      · cases refused.symm.trans deadEnd
        exact absurd same code
    · intro ρ recorder began keeper recording recorded
      refine ⟨fun entered => ?_, fun _ => unchanged⟩
      obtain ⟨e, member, enters⟩ := (asked recorder began keeper recorded).mp entered
      simp [silent e member] at enters
  | @moved found there changed code entered =>
    have moved : moves := ⟨found, there, changed⟩
    refine ⟨.inr moved, ?_, fun _ => moved, added, grown.symm, ?_⟩
    · intro f refused back
      simp [code f refused] at back
    · intro ρ recorder began keeper recording recorded
      have noted := (asked recorder began keeper recorded).mpr entered
      exact ⟨fun _ => moved, fun silent => absurd noted silent⟩

/-- The first scene of a story is entered, and an invalid choice there changes nothing. -/
theorem move_all_or_nothing_vault :
    let fresh : Play Unit := ⟨{ id := "v" }, { directory := "/" }, (), []⟩
    let entry : Move := .start ⟨"a", "m", "s"⟩
    let waiting := (fresh.make Story.vault.host entry).2
    fresh.Reachable ∧ (fresh.make Story.vault.host entry).1 = none ∧
      (∃ found, fresh.destination? Story.vault.host entry = some found ∧
        fresh.session.Moves waiting.session found) ∧
      waiting.Reachable ∧
      ((waiting.make Story.vault.host (.choose "7")).1.map (·.code.turnsBack)) = some true ∧
      waiting.session.Stays (waiting.make Story.vault.host (.choose "7")).2.session := by
  intro fresh entry waiting
  have reachable : fresh.Reachable := .fresh "v" 0 {} () (Loader.readFrom_empty _ "/")
  have accepted : (fresh.make Story.vault.host entry).1 = none := by decide +kernel
  have refused : (waiting.make Story.vault.host (.choose "7")).1.map (·.code.turnsBack) =
      some true := by decide +kernel
  obtain ⟨f, answer, back⟩ := Option.map_eq_some_iff.mp refused
  have later : waiting.Reachable := reachable.make _ entry
  obtain ⟨-, -, moves, -⟩ := move_all_or_nothing reachable Story.vault.host entry
  obtain ⟨-, stays, -⟩ := move_all_or_nothing later Story.vault.host (.choose "7")
  exact ⟨reachable, accepted, moves (.inl accepted), later, refused, stays f answer back⟩

end Gamebook
