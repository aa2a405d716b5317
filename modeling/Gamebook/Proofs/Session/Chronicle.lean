import Gamebook.Proofs.Session.Game
import Gamebook.Proofs.Session.Steps

/-! # The tale of a session

What transcripts are told about a session is a tale of the scenes that were entered, each with the
effects that changed something there, and of the inputs given in them. `Tale` says how such a tale
grows. `View.Accounted` ties it to the session: it tells of the scenes the session has been in, and
it is closed by why the session ended.
-/

namespace Gamebook

/-- One thing that transcripts are told. -/
structure Note where
  moment : Moment
  address : Text
  detail : Text
  deriving DecidableEq, Repr

def Note.event (n : Note) : Event :=
  .happened n.moment n.address n.detail

/-- The effects that change which items are held, each when its turn comes. -/
def Effect.changing (items : Finset Text) : List Effect → List Effect
  | [] => []
  | e :: rest =>
    if e.onItems items = items then changing items rest
    else e :: changing (e.onItems items) rest

/-- What is told of a moment in a scene. -/
def Found.note (found : Found) (moment : Moment) (detail : Text) : Note :=
  ⟨moment, found.address.text, detail⟩

/-- What is told when a scene is entered with some items. -/
def Found.notes (found : Found) (items : Finset Text) : List Note :=
  found.note .enter [] ::
    (Effect.changing items found.scene.effects).map (found.note .inventory ·.text)

/-- The items held after scenes were entered, of which the last one comes first. -/
def heldAfter (items : Finset Text) : List Found → Finset Text
  | [] => items
  | found :: before => found.scene.effects.foldl Effect.onItems (heldAfter items before)

/-- What is told of entering scenes, of which the last one comes first. -/
def arrivals (items : Finset Text) : List Found → List Note
  | [] => []
  | found :: before => arrivals items before ++ found.notes (heldAfter items before)

/-- Where a tale has come to. -/
inductive Whereabouts where
  | between
  | inside
  deriving DecidableEq, Repr

/-- The tales of sessions that start with some items and enter scenes, the last one first. -/
inductive Tale (items : Finset Text) : Whereabouts → List Found → List Note → Prop where
  | start : Tale items .between [] []
  | enter {visits : List Found} {notes : List Note} (before : Tale items .between visits notes)
      (found : Found) :
    Tale items .inside (found :: visits) (notes ++ found.notes (heldAfter items visits))
  | mistake {here : Found} {visits : List Found} {notes : List Note}
      (before : Tale items .inside (here :: visits) notes) (input : Text) :
    Tale items .inside (here :: visits) (notes ++ [here.note .invalidChoice input])
  | choose {here : Found} {visits : List Found} {notes : List Note}
      (before : Tale items .inside (here :: visits) notes) (label : Text) :
    Tale items .between (here :: visits) (notes ++ [here.note .choice label])

theorem Inventory.Keyed.changes_iff {inv : Inventory} (keyed : inv.Keyed) (e : Effect) :
    inv.changes e = true ↔ e.onItems inv.folded ≠ inv.folded := by
  cases e with
  | get item pos => simp [changes, Effect.onItems, ← keyed.has_iff]
  | lose item pos => simp [changes, Effect.onItems, ← keyed.has_iff]

theorem Inventory.Keyed.applyAll_snd {inv : Inventory} (keyed : inv.Keyed)
    (effects : List Effect) :
    (inv.applyAll effects).2 = Effect.changing inv.folded effects := by
  induction effects generalizing inv with
  | nil => rfl
  | cons e rest ih =>
    have later := ih (keyed.apply e)
    rw [keyed.folded_apply] at later
    simp only [applyAll, Effect.changing, later]
    by_cases same : e.onItems inv.folded = inv.folded
    · have idle : inv.changes e = false := by
        simpa [same] using keyed.changes_iff e
      simp [same, idle]
    · have busy : inv.changes e = true := (keyed.changes_iff e).mpr same
      simp [same, busy]

theorem Found.arrival_eq (found : Found) {inv : Inventory} (keyed : inv.Keyed) :
    found.arrival inv = (found.notes inv.folded).map Note.event := by
  simp [arrival, notes, note, keyed.applyAll_snd, Note.event]

/-- That a session started with some items and has been in scenes, the last one first. -/
structure Session.Visited (items : Finset Text) (s : Session) (visits : List Found) : Prop where
  current : s.current = visits.head?
  keyed : s.inventory.Keyed
  held : s.inventory.folded = heldAfter items visits

namespace Session.Visited

variable {items : Finset Text} {s : Session} {visits : List Found}

theorem arrived (visited : s.Visited items visits) (found : Found) :
    (s.arrived found).Visited items (found :: visits) := by
  refine ⟨rfl, visited.keyed.foldl_apply _, ?_⟩
  simp only [Session.arrived, visited.keyed.folded_foldl_apply, visited.held, heldAfter]

theorem eventAddress {here : Found} (visited : s.Visited items (here :: visits)) :
    s.eventAddress = here.address.text := by
  rw [Session.eventAddress, visited.current]
  rfl

end Session.Visited

namespace View

variable {σ : Type} {items : Finset Text} {h : Host σ} {v : View} {r : Option Failure × View}
  {visits : List Found} {entry : Text} {notes : List Note} {place : Whereabouts}

/-- That a view tells the tale of its session, which started with some items. A session that was
    called off before it started has nothing told of it but its end. -/
def Accounted (items : Finset Text) (v : View) : Prop :=
  ∃ visits, v.session.Visited items visits ∧
    match v.session.stage with
    | .awaitingEntry => visits = [] ∧ v.story = []
    | .awaitingChoice =>
      ∃ entry notes, v.story = .began entry :: notes.map Note.event ∧
        Tale items .inside visits notes
    | .ended =>
      ∃ f, v.session.ending = some f ∧
        (visits = [] ∧ v.story = v.session.farewell f ∨
          ∃ entry notes place,
            v.story = .began entry :: notes.map Note.event ++ v.session.farewell f ∧
              Tale items place visits notes)
    | .presenting | .transitioning => False

theorem accounted_finish (visited : v.session.Visited items visits)
    (story : v.story = .began entry :: notes.map Note.event) (tale : Tale items place visits notes)
    (f : Failure) : (v.finish f).2.Accounted items := by
  refine ⟨visits, ⟨visited.current, visited.keyed, visited.held⟩, f, rfl,
    .inr ⟨entry, notes, place, ?_, tale⟩⟩
  simp [View.finish, View.tell, story, Session.farewell, Session.finished, Session.eventAddress]

theorem arrive_story (visited : v.session.Visited items visits)
    (story : v.story = .began entry :: notes.map Note.event) (found : Found) :
    (v.arrive found).story =
      .began entry :: (notes ++ found.notes (heldAfter items visits)).map Note.event := by
  simp [View.arrive, View.tell, story, found.arrival_eq visited.keyed, visited.held]

theorem Entering.accounted {found : Found} (entering : v.Entering h found r)
    (visited : v.session.Visited items visits)
    (story : v.story = .began entry :: notes.map Note.event)
    (tale : Tale items .between visits notes) : r.2.Accounted items := by
  have arrived : (v.arrive found).session.Visited items (found :: visits) := visited.arrived found
  have told := arrive_story visited story found
  have inside := tale.enter found
  cases entering with
  | halted asked => exact accounted_finish visited story tale _
  | unshown refused => exact accounted_finish arrived told inside _
  | deadEnd nothing => exact accounted_finish arrived told inside _
  | broken something missing => exact accounted_finish arrived told inside _
  | awaiting something whole =>
    exact ⟨_, ⟨arrived.current, arrived.keyed, arrived.held⟩, entry, _, told, inside⟩

theorem Starting.accounted {a : Address} {w : σ} (starting : v.Starting h a w r)
    (fresh : v.session.Visited items []) (silent : v.story = []) : r.2.Accounted items := by
  have told : (v.tell [.began a.text]).story =
      .began a.text :: ([] : List Note).map Note.event := by
    simp [View.tell, silent]
  cases starting with
  | halted asked => exact accounted_finish (v := v.tell _) fresh told .start _
  | unresolved loader failed =>
    exact accounted_finish (v := { v.tell _ with loader := _ }) fresh told .start _
  | entering loader ok rest =>
    exact rest.accounted (v := { v.tell _ with loader := _ }) fresh told .start

theorem choice_story {here : Found} (visited : v.session.Visited items (here :: visits))
    (story : v.story = .began entry :: notes.map Note.event) (n : Nat) (offer : Offer) :
    (v.choice n offer).story = .began entry ::
      (notes ++ [here.note .choice (Text.ofNat n ++ ": " ++ offer.choice.label)]).map
        Note.event := by
  simp [View.choice, View.tell, story, Note.event, Found.note, visited.eventAddress]

theorem mistake_story {here : Found} (visited : v.session.Visited items (here :: visits))
    (story : v.story = .began entry :: notes.map Note.event) (input : Text) :
    (v.mistake input).story = .began entry ::
      (notes ++ [here.note .invalidChoice input]).map Note.event := by
  simp [View.mistake, View.tell, story, Note.event, Found.note, visited.eventAddress]

theorem Choosing.accounted {input : Text} {w : σ} (choosing : v.Choosing h input w r)
    (waiting : v.session.stage = .awaitingChoice) {here : Found}
    (visited : v.session.Visited items (here :: visits))
    (story : v.story = .began entry :: notes.map Note.event)
    (tale : Tale items .inside (here :: visits) notes) : r.2.Accounted items := by
  have mistaken : (v.mistake input).session.Visited items (here :: visits) :=
    ⟨visited.current, visited.keyed, visited.held⟩
  have told := mistake_story visited story input
  cases choosing with
  | halted asked => exact accounted_finish visited story tale _
  | @unresolved n offer f l picked loader failed =>
    exact accounted_finish (v := { v.choice n offer with loader := l }) visited
      (choice_story visited story n offer) (tale.choose _) _
  | @entering n offer found l r picked loader ok rest =>
    exact rest.accounted (v := { v.choice n offer with loader := l }) visited
      (choice_story visited story n offer) (tale.choose _)
  | unshown unpicked refused => exact accounted_finish mistaken told (tale.mistake input) _
  | exhausted unpicked many => exact accounted_finish mistaken told (tale.mistake input) _
  | rejected unpicked few =>
    refine ⟨_, mistaken, ?_⟩
    simp only [View.mistake, View.tell, Session.mistaken, waiting]
    exact ⟨entry, _, told, tale.mistake input⟩

end View

/-- A tale that has stopped in a scene has been in one. -/
theorem Tale.exists_cons {items : Finset Text} {visits : List Found} {notes : List Note}
    (tale : Tale items .inside visits notes) : ∃ here before, visits = here :: before := by
  cases tale with
  | enter before found => exact ⟨found, _, rfl⟩
  | mistake before input => exact ⟨_, _, rfl⟩

namespace Play

variable {σ : Type} {items : Finset Text} {p : Play σ}

theorem make_accounted (h : Host σ) (m : Move) (before : p.view.Accounted items) :
    (p.make h m).2.view.Accounted items := by
  cases m with
  | start entry =>
    by_cases fresh : p.session.stage = .awaitingEntry
    · obtain ⟨visits, visited, account⟩ := before
      have stage : p.view.session.stage = .awaitingEntry := fresh
      rw [stage] at account
      obtain ⟨rfl, silent⟩ := account
      exact (start_starting h entry fresh).accounted visited silent
    · rw [make, start_of_ne h entry fresh]
      exact before
  | choose input =>
    by_cases waiting : p.session.stage = .awaitingChoice
    · obtain ⟨visits, visited, account⟩ := before
      have stage : p.view.session.stage = .awaitingChoice := waiting
      rw [stage] at account
      obtain ⟨entry, notes, story, tale⟩ := account
      obtain ⟨here, earlier, rfl⟩ := tale.exists_cons
      exact (choose_choosing h input waiting).accounted waiting visited story tale
    · rw [make, choose_of_ne h input waiting]
      exact before

theorem finish_accounted (f : Failure) (ongoing : p.session.stage ≠ .ended)
    (before : p.view.Accounted items) : (p.finish f).2.view.Accounted items := by
  have ended : (p.finish f).2.view = (p.view.finish f).2 := congrArg Prod.snd (seen_finish p f)
  rw [ended]
  obtain ⟨visits, visited, account⟩ := before
  cases stage : p.view.session.stage with
  | awaitingEntry =>
    rw [stage] at account
    obtain ⟨rfl, silent⟩ := account
    refine ⟨[], ⟨visited.current, visited.keyed, visited.held⟩, f, rfl, .inl ⟨rfl, ?_⟩⟩
    simp [View.finish, View.tell, silent, Session.farewell, Session.finished, Session.eventAddress]
  | awaitingChoice =>
    rw [stage] at account
    obtain ⟨entry, notes, story, tale⟩ := account
    exact View.accounted_finish visited story tale f
  | ended => exact absurd stage ongoing
  | presenting => simp [stage] at account
  | transitioning => simp [stage] at account

theorem kept_accounted : Kept fun p : Play σ => p.view.Accounted items where
  make h m := make_accounted h m
  finish f := finish_accounted f
  world _ before := before

/-- Whatever happens to a session, what transcripts are told is its tale. -/
theorem Leads.accounted {s : Session} {l : Loader} {w : σ} (fresh : s.stage = .awaitingEntry)
    (visited : s.Visited items []) (leads : Leads ⟨s, l, w, []⟩ p) : p.view.Accounted items := by
  have silent : (Play.view ⟨s, l, w, []⟩).Accounted items := by
    refine ⟨[], visited, ?_⟩
    rw [show (Play.view ⟨s, l, w, []⟩).session.stage = .awaitingEntry from fresh]
    exact ⟨rfl, rfl⟩
  exact kept_accounted.leads (fun _ before => before) leads silent

end Play

end Gamebook
