import Gamebook.Proofs.Archive
import Gamebook.Proofs.Session.Chronicle
import Gamebook.Proofs.Session.Commit

/-! # Sessions that share an archive

Sessions are played side by side and recorded in one archive, in which their events come in any
order. Of those that go by the same name, the archive takes the first one to begin and keeps its
events and no others.
-/

namespace Gamebook

/-! ## What is kept of a session -/

/-- What an event tells of a moment. -/
def Event.note? : Event → Option Note
  | .happened moment address detail => some ⟨moment, address, detail⟩
  | _ => none

/-- What an event tells of the end of its session. -/
def Event.outcome? : Event → Option Code
  | .closed outcome => some outcome
  | _ => none

namespace Transcript

/-- The transcript of a session that began at an entry and left events behind. -/
def ofEvents (id entry : Text) (es : List Event) : Header × List Entry :=
  let outcome := (es.filterMap Event.outcome?).getLast?
  ({ id, entry, ended := outcome.isSome, outcome := (outcome.map Code.text).getD [] },
    ((es.filterMap Event.note?).zipIdx 1).map fun (n, seq) =>
      ⟨seq, n.moment.text, n.address, n.detail⟩)

/-- A transcript with one more event. -/
def absorb (s : Header × List Entry) : Event → Header × List Entry
  | .happened moment address detail =>
    (s.1, s.2 ++ [⟨s.2.length + 1, moment.text, address, detail⟩])
  | .closed outcome => ({ s.1 with ended := true, outcome := outcome.text }, s.2)
  | .began _ | .logged _ => s

theorem ofEvents_concat (id entry : Text) (es : List Event) (e : Event) :
    ofEvents id entry (es ++ [e]) = absorb (ofEvents id entry es) e := by
  cases e with
  | began | logged =>
    simp [ofEvents, absorb, List.filterMap_cons, Event.note?, Event.outcome?]
  | happened moment address detail =>
    simp [ofEvents, absorb, Event.note?, Event.outcome?, List.zipIdx_append, Nat.add_comm]
  | closed outcome => simp [ofEvents, absorb, List.filterMap_cons, Event.note?, Event.outcome?]

theorem ofEvents_untold (id entry : Text) {es : List Event}
    (untold : ∀ e ∈ es, e.isTold = false) : ofEvents id entry es = ({ id, entry }, []) := by
  have silent : es.filterMap Event.note? = [] ∧ es.filterMap Event.outcome? = [] := by
    constructor
    all_goals
      rw [List.filterMap_eq_nil_iff]
      intro e member
      cases e with
      | logged => rfl
      | _ => exact absurd (untold _ member) (by simp [Event.isTold])
  simp [ofEvents, silent]

theorem Recording.began_record {ρ : Type} (recorder : Recorder ρ) (id : Text) (r : Recording ρ)
    {e : Event} (later : e.begins = false) : (r.record recorder id e).2.began = r.began := by
  cases e with
  | began => cases later
  | logged => rfl
  | happened | closed => cases began : r.began <;> simp [record, began]

/-- Only a session whose start was recorded is written to, and only its own transcript changes. -/
theorem Memory.kept?_record (m : Memory) (began : Bool) (id id' : Text) {e : Event}
    (later : e.begins = false) :
    ((⟨began, m⟩ : Recording Memory).record recorder id e).2.keeper.kept? id' =
      if began ∧ id' = id then (m.kept? id).map (absorb · e) else m.kept? id' := by
  cases e with
  | began => cases later
  | logged entry =>
    change m.kept? id' = _
    split
    · next here => simp [here.2, absorb]
    · rfl
  | happened moment address detail =>
    cases began with
    | false => simp [Recording.record]
    | true =>
      change (m.append id moment.text address detail).2.kept? id' = _
      rw [kept?_append]
      simp [absorb]
  | closed outcome =>
    cases began with
    | false => simp [Recording.record]
    | true =>
      change (m.close id outcome.text).2.kept? id' = _
      rw [kept?_close]
      simp [absorb]

end Transcript

/-! ## What each session keeps -/

namespace View

variable {σ : Type} {h : Host σ} {v : View} {r : Option Failure × View}

theorem Entering.id_eq {found : Found} (entering : v.Entering h found r) :
    r.2.session.id = v.session.id := by
  cases entering <;> rfl

theorem Starting.id_eq {entry : Address} {w : σ} (starting : v.Starting h entry w r) :
    r.2.session.id = v.session.id := by
  cases starting with
  | halted | unresolved => rfl
  | entering loader ok rest => exact rest.id_eq

theorem Choosing.id_eq {input : Text} {w : σ} (choosing : v.Choosing h input w r) :
    r.2.session.id = v.session.id := by
  cases choosing with
  | entering picked loader ok rest => exact rest.id_eq
  | _ => rfl

/-- A tale of a session starts with its beginning and tells of no other. -/
theorem Accounted.begins {items : Finset Text} (accounted : v.Accounted items) :
    ∀ e ∈ v.story.tail, e.begins = false := by
  obtain ⟨visits, -, account⟩ := accounted
  cases stage : v.session.stage with
  | awaitingEntry =>
    rw [stage] at account
    simp [account.2]
  | awaitingChoice =>
    rw [stage] at account
    obtain ⟨entry, notes, story, -⟩ := account
    simp [story, Note.event, Event.begins]
  | ended =>
    rw [stage] at account
    obtain ⟨f, -, ⟨-, story⟩ | ⟨entry, notes, place, story, -⟩⟩ := account
    · simp [story, Session.farewell, Event.begins]
    · rw [story, List.cons_append, List.tail_cons]
      simp [Session.farewell, Note.event, Event.begins, or_imp, forall_and]
  | presenting => simp [stage] at account
  | transitioning => simp [stage] at account

end View

namespace Play

variable {σ : Type} {p q : Play σ}

theorem make_id (h : Host σ) (p : Play σ) (m : Move) :
    (p.make h m).2.session.id = p.session.id := by
  cases m with
  | start entry =>
    by_cases fresh : p.session.stage = .awaitingEntry
    · exact (start_starting h entry fresh).id_eq
    · rw [make, start_of_ne h entry fresh]
  | choose input =>
    by_cases waiting : p.session.stage = .awaitingChoice
    · exact (choose_choosing h input waiting).id_eq
    · rw [make, choose_of_ne h input waiting]

theorem kept_id (id : Text) : Kept fun p : Play σ => p.session.id = id where
  make h m same := (make_id h _ m).trans same
  finish f _ same := (congrArg (·.2.session.id) (seen_finish _ f)).trans same
  world _ same := same

theorem kept_events (es : List Event) : Kept fun p : Play σ => es <+: p.events where
  make h m grown := grown.trans (prefix_make h _ m)
  finish f _ grown := prefix_finish grown f
  world _ grown := grown

theorem Leads.id_eq (leads : p.Leads q) : q.session.id = p.session.id :=
  (kept_id p.session.id).leads (fun _ same => same) leads rfl

theorem Leads.events (leads : p.Leads q) : p.events <+: q.events :=
  (kept_events p.events).leads (fun _ grown => grown) leads (List.prefix_refl _)

/-- That a session has yet to start, with some items and a bound on invalid choices. -/
def Fresh (p : Play σ) : Prop :=
  ∃ id maxRetries items l w,
    p = ⟨{ id, maxRetries, inventory := .ofItems items }, l, w, []⟩

/-- Nothing is told of a session before its beginning, which comes once. -/
theorem Leads.begins (fresh : p.Fresh) (leads : p.Leads q) :
    ∀ e ∈ q.story.tail, e.begins = false := by
  obtain ⟨id, maxRetries, items, l, w, rfl⟩ := fresh
  have visited : ({ id, maxRetries, inventory := .ofItems items } : Session).Visited
      (items.map Text.fold).toFinset [] :=
    ⟨rfl, Inventory.keyed_ofItems items, Inventory.folded_ofItems items⟩
  exact (leads.accounted rfl visited).begins

/-- Whatever comes before the beginning of a session goes to the log. -/
theorem Leads.untold (fresh : p.Fresh) (leads : p.Leads q) {es : List Event} {entry : Text}
    (began : es ++ [.began entry] <+: q.events) : ∀ e ∈ es, e.isTold = false := by
  obtain ⟨rest, split⟩ := began
  have story : q.story = es.filter Event.isTold ++ .began entry :: rest.filter Event.isTold := by
    rw [Play.story, ← split, List.append_assoc, List.filter_append]
    rfl
  have once := leads.begins fresh
  cases told : es.filter Event.isTold with
  | nil => simpa [List.filter_eq_nil_iff] using told
  | cons e more =>
    rw [story, told] at once
    exact absurd (once (.began entry) (by simp)) (by simp [Event.begins])

end Play

/-! ## Side by side -/

/-- Sessions that are played side by side and recorded in one archive. -/
structure Company (ι σ : Type) where
  plays : ι → Play σ
  keeper : Archive.Kept
  /-- Whether the start of each session was recorded. -/
  began : ι → Bool := fun _ => false
  /-- The events that have come to the archive, each with the session that left it behind. -/
  written : List (ι × Event) := []

namespace Company

variable {ι σ : Type} [DecidableEq ι]

def name (c : Company ι σ) (i : ι) : Text :=
  (c.plays i).session.id

/-- The events of a session that have come to the archive. -/
def heard (c : Company ι σ) (i : ι) : List Event :=
  (c.written.filter (·.1 = i)).map Prod.snd

/-- The session that begins under a name by an event, and where it begins. -/
def opens? (c : Company ι σ) (id : Text) : ι × Event → Option (ι × Text)
  | (i, .began entry) => if c.name i = id then some (i, entry) else none
  | _ => none

/-- The first session to begin under a name, and where it began. -/
def opener? (c : Company ι σ) (id : Text) : Option (ι × Text) :=
  c.written.findSome? (c.opens? id)

/-- The transcript of the first session to begin under a name. -/
def transcript? (c : Company ι σ) (id : Text) :
    Option (Transcript.Header × List Transcript.Entry) :=
  (c.opener? id).map fun first => Transcript.ofEvents id first.2 (c.heard first.1)

/-- Something happens to one of the sessions. -/
def play (c : Company ι σ) (i : ι) (p : Play σ) : Company ι σ :=
  { c with plays := Function.update c.plays i p }

/-- An event of a session comes to the archive. -/
def write (c : Company ι σ) (i : ι) (e : Event) : Company ι σ :=
  let recording := (⟨c.began i, c.keeper⟩ : Transcript.Recording Archive.Kept)
  let recorded := (recording.record Archive.recorder (c.name i) e).2
  { c with
    keeper := recorded.keeper
    began := Function.update c.began i recorded.began
    written := c.written ++ [(i, e)] }

/-- What can happen in a company. The events of a session come to the archive in their order, but
    with any delay. -/
inductive Step : Company ι σ → Company ι σ → Prop where
  | play (c : Company ι σ) (i : ι) {p : Play σ} (step : (c.plays i).Step p) : Step c (c.play i p)
  | write (c : Company ι σ) (i : ι) {e : Event} (next : c.heard i ++ [e] <+: (c.plays i).events) :
    Step c (c.write i e)

/-- That whatever can happen leads from one company to another. -/
abbrev Leads : Company ι σ → Company ι σ → Prop :=
  Relation.ReflTransGen Step

variable {c : Company ι σ} {i j : ι} {e : Event}

theorem heard_write : (c.write i e).heard j = if j = i then c.heard i ++ [e] else c.heard j := by
  unfold heard write
  split
  · next same => simp [same]
  · next other => simp [Ne.symm other]

theorem opener?_write (id : Text) :
    (c.write i e).opener? id = (c.opener? id).or (c.opens? id (i, e)) := by
  have same : (c.write i e).opens? id = c.opens? id := rfl
  rw [opener?, same, show (c.write i e).written = c.written ++ [(i, e)] from rfl,
    List.findSome?_append]
  cases opens : c.opens? id (i, e) <;> simp [opener?, opens]

theorem mem_heard : e ∈ c.heard i ↔ (i, e) ∈ c.written := by
  simp [heard]

omit [DecidableEq ι] in
theorem opens?_eq_some {id entry : Text} (opens : c.opens? id (i, e) = some (j, entry)) :
    i = j ∧ c.name i = id ∧ e = .began entry := by
  cases e with
  | began =>
    simp only [opens?] at opens
    split at opens
    · next same =>
      cases opens
      exact ⟨rfl, same, rfl⟩
    · cases opens
  | _ => cases opens

/-- Whoever is the first to begin under a name has that name and has begun. -/
theorem opener?_eq_some {id entry : Text} (first : c.opener? id = some (i, entry)) :
    c.name i = id ∧ .began entry ∈ c.heard i := by
  obtain ⟨⟨j, e⟩, member, opens⟩ := List.exists_of_findSome?_eq_some first
  obtain ⟨rfl, same, rfl⟩ := opens?_eq_some opens
  exact ⟨same, mem_heard.mpr member⟩

theorem transcript?_write_of_ne {id entry : Text} (first : c.opener? id = some (j, entry))
    (other : j ≠ i) : (c.write i e).transcript? id = c.transcript? id := by
  unfold transcript?
  rw [opener?_write, first, Option.some_or, Option.map_some, Option.map_some, heard_write,
    if_neg other]

theorem transcript?_write_self {id entry : Text} (first : c.opener? id = some (i, entry)) :
    (c.write i e).transcript? id = (c.transcript? id).map (Transcript.absorb · e) := by
  unfold transcript?
  rw [opener?_write, first, Option.some_or, Option.map_some, Option.map_some, Option.map_some,
    heard_write, if_pos rfl, Transcript.ofEvents_concat]

omit [DecidableEq ι] in
theorem opens?_of_later (later : e.begins = false) (id : Text) : c.opens? id (i, e) = none := by
  cases e with
  | began => cases later
  | _ => rfl

/-- An event has no bearing on any name but that of its session. -/
theorem transcript?_write_ne {id : Text} (other : c.name i ≠ id) :
    (c.write i e).transcript? id = c.transcript? id := by
  cases first : c.opener? id with
  | some opener =>
    obtain ⟨j, entry⟩ := opener
    apply transcript?_write_of_ne first
    rintro rfl
    exact other (opener?_eq_some first).1
  | none =>
    have silent : c.opens? id (i, e) = none := by
      cases opens : c.opens? id (i, e) with
      | none => rfl
      | some opener => exact absurd (opens?_eq_some opens).2.1 other
    simp [transcript?, opener?_write, first, silent]

theorem opener?_write_iff {id : Text} (other : j ≠ i) :
    (∃ entry, (c.write i e).opener? id = some (j, entry)) ↔
      ∃ entry, c.opener? id = some (j, entry) := by
  rw [opener?_write]
  cases first : c.opener? id with
  | some opener => rfl
  | none =>
    rw [Option.none_or]
    constructor
    · rintro ⟨entry, opens⟩
      exact absurd (opens?_eq_some opens).1 (Ne.symm other)
    · rintro ⟨entry, none⟩
      cases none

/-- A session that has not begun is not the first to have begun under its name. -/
theorem opener_ne {id entry : Text} (untold : ∀ e ∈ c.heard i, e.isTold = false)
    (first : c.opener? id = some (j, entry)) : j ≠ i := by
  rintro rfl
  have told := untold _ (opener?_eq_some first).2
  cases told

/-- That the archive of a company keeps what was in it before, in `m₀`, and of every other name the
    transcript of the first session to begin under it. -/
structure Sound (plays : ι → Play σ) (m₀ : Transcript.Memory) (c : Company ι σ)
    (m : Transcript.Memory) : Prop where
  keeps : Archive.Keeps m c.keeper
  leads : ∀ i, (plays i).Leads (c.plays i)
  heard : ∀ i, c.heard i <+: (c.plays i).events
  kept : ∀ id, m.kept? id = (m₀.kept? id).or (c.transcript? id)
  began : ∀ i, c.began i = true ↔
    m₀.kept? (c.name i) = none ∧ ∃ entry, c.opener? (c.name i) = some (i, entry)

namespace Sound

variable {plays : ι → Play σ} {m₀ m : Transcript.Memory} (sound : Sound plays m₀ c m)
include sound

theorem play {p : Play σ} (step : (c.plays i).Step p) : Sound plays m₀ (c.play i p) m := by
  have each : ∀ j, (c.plays j).Leads ((c.play i p).plays j) := by
    intro j
    by_cases same : j = i
    · subst same
      simpa [Company.play] using Relation.ReflTransGen.single step
    · simpa [Company.play, Function.update_of_ne same] using Relation.ReflTransGen.refl
  have name : (c.play i p).name = c.name := funext fun j => (each j).id_eq
  have opener : (c.play i p).opener? = c.opener? := by
    funext id
    unfold opener? opens?
    rw [name]
    rfl
  have transcript : (c.play i p).transcript? = c.transcript? := by
    funext id
    unfold transcript?
    rw [opener]
    rfl
  refine ⟨sound.keeps, fun j => (sound.leads j).trans (each j),
    fun j => (sound.heard j).trans (each j).events, ?_, ?_⟩
  · rw [transcript]
    exact sound.kept
  · rw [name, opener]
    exact sound.began

theorem heard_write (next : c.heard i ++ [e] <+: (c.plays i).events) (j : ι) :
    (c.write i e).heard j <+: ((c.write i e).plays j).events := by
  rw [Company.heard_write]
  split
  · next same =>
    subst same
    exact next
  · exact sound.heard j

theorem write_later (next : c.heard i ++ [e] <+: (c.plays i).events) (later : e.begins = false) :
    ∃ m', Sound plays m₀ (c.write i e) m' := by
  obtain ⟨same, keeps⟩ := sound.keeps.record (c.began i) (c.name i) e
  refine ⟨_, keeps, sound.leads, sound.heard_write next, ?_, ?_⟩
  · intro id
    rw [Transcript.Memory.kept?_record m _ _ _ later]
    split
    · next here =>
      obtain ⟨began, rfl⟩ := here
      obtain ⟨unknown, entry, first⟩ := (sound.began i).mp began
      rw [sound.kept, unknown, Option.none_or, Option.none_or, transcript?_write_self first]
    · next elsewhere =>
      rw [sound.kept]
      cases known : m₀.kept? id with
      | some kept => rfl
      | none =>
        rw [Option.none_or, Option.none_or]
        cases first : c.opener? id with
        | none => simp [transcript?, opener?_write, first, opens?_of_later later]
        | some opener =>
          obtain ⟨j, entry⟩ := opener
          refine (transcript?_write_of_ne first ?_).symm
          rintro rfl
          obtain ⟨rfl, -⟩ := opener?_eq_some first
          exact elsewhere ⟨(sound.began j).mpr ⟨known, entry, first⟩, rfl⟩
  · intro j
    have opener : (c.write i e).opener? = c.opener? := by
      funext id
      rw [opener?_write, opens?_of_later later, Option.or_none]
    have began : (c.write i e).began = c.began := by
      refine Eq.trans ?_ (Function.update_eq_self i c.began)
      exact congrArg (Function.update c.began i) (Transcript.Recording.began_record _ _ _ later)
    rw [opener, began]
    exact sound.began j

/-- The sessions that were recorded before are those that were first to begin before. -/
theorem began_write_of_ne (other : j ≠ i) :
    (c.write i e).began j = true ↔ m₀.kept? (c.name j) = none ∧
      ∃ entry, (c.write i e).opener? (c.name j) = some (j, entry) := by
  rw [opener?_write_iff other, ← sound.began]
  exact Eq.congr_left (Function.update_of_ne other ..)

/-- A session that begins under a name that is taken is not recorded. -/
theorem write_taken {entry : Text} (untold : ∀ e ∈ c.heard i, e.isTold = false)
    (next : c.heard i ++ [.began entry] <+: (c.plays i).events)
    (taken : m.kept? (c.name i) ≠ none) : Sound plays m₀ (c.write i (.began entry)) m := by
  obtain ⟨began, keeps⟩ := sound.keeps.record (c.began i) (c.name i) (.began entry)
  have refused : (m.start (c.name i) entry).1.isNone = false ∧
      (m.start (c.name i) entry).2 = m := by
    have known : m.knows (c.name i) := by
      simpa [Transcript.Memory.knows_eq_isSome, Option.isSome_iff_ne_none] using taken
    simp [Transcript.Memory.start, known]
  have opened : m₀.kept? (c.name i) = none →
      ∃ j entry, c.opener? (c.name i) = some (j, entry) ∧ j ≠ i := by
    intro unknown
    rw [sound.kept, unknown, Option.none_or, transcript?] at taken
    obtain ⟨⟨j, entry⟩, first⟩ := Option.ne_none_iff_exists'.mp (mt (congrArg (Option.map _)) taken)
    exact ⟨j, entry, first, opener_ne untold first⟩
  refine ⟨refused.2 ▸ keeps, sound.leads, sound.heard_write next, ?_, ?_⟩
  · intro id
    rw [sound.kept]
    by_cases here : c.name i = id
    · subst here
      cases known : m₀.kept? (c.name i) with
      | some kept => rfl
      | none =>
        obtain ⟨j, entry', first, other⟩ := opened known
        rw [transcript?_write_of_ne first other]
    · rw [transcript?_write_ne here]
  · intro j
    by_cases same : j = i
    · subst same
      have before : c.began j = false := by
        rw [Bool.eq_false_iff]
        intro recorded
        obtain ⟨-, entry', first⟩ := (sound.began j).mp recorded
        exact opener_ne untold first rfl
      have unrecorded : (c.write j (.began entry)).began j = false := by
        refine (Function.update_self ..).trans (began.trans ?_)
        change (c.began j || (m.start (c.name j) entry).1.isNone) = false
        rw [before, refused.1, Bool.or_self]
      rw [unrecorded]
      constructor
      · intro recorded
        cases recorded
      · rintro ⟨unknown, entry', first⟩
        obtain ⟨j', entry'', before, other⟩ := opened unknown
        rw [show (c.write j (.began entry)).name j = c.name j from rfl, opener?_write, before]
          at first
        cases first
        exact absurd rfl other
    · exact sound.began_write_of_ne same

/-- A session that is the first to begin under a name is recorded from its beginning. -/
theorem write_new {entry : Text} (untold : ∀ e ∈ c.heard i, e.isTold = false)
    (next : c.heard i ++ [.began entry] <+: (c.plays i).events)
    (free : m.kept? (c.name i) = none) :
    Sound plays m₀ (c.write i (.began entry)) (m.start (c.name i) entry).2 := by
  obtain ⟨began, keeps⟩ := sound.keeps.record (c.began i) (c.name i) (.began entry)
  obtain ⟨unknown, unopened⟩ : m₀.kept? (c.name i) = none ∧ c.opener? (c.name i) = none := by
    simpa [sound.kept, transcript?] using free
  have first : (c.write i (.began entry)).opener? (c.name i) = some (i, entry) := by
    simp [opener?_write, unopened, opens?]
  refine ⟨keeps, sound.leads, sound.heard_write next, ?_, ?_⟩
  · intro id
    rw [Transcript.Memory.kept?_start free]
    split
    · next here =>
      subst here
      rw [unknown, Option.none_or, transcript?, first, Option.map_some, Company.heard_write,
        if_pos rfl, Transcript.ofEvents_concat, Transcript.ofEvents_untold _ _ untold]
      rfl
    · next elsewhere => rw [sound.kept, transcript?_write_ne (Ne.symm elsewhere)]
  · intro j
    by_cases same : j = i
    · subst same
      have recorded : (c.write j (.began entry)).began j = true := by
        refine (Function.update_self ..).trans (began.trans ?_)
        change (c.began j || (m.start (c.name j) entry).1.isNone) = true
        simp [Transcript.Memory.start, Transcript.Memory.knows_eq_isSome, free]
      rw [recorded]
      exact ⟨fun _ => ⟨unknown, entry, first⟩, fun _ => rfl⟩
    · exact sound.began_write_of_ne same

theorem write (fresh : (plays i).Fresh) (next : c.heard i ++ [e] <+: (c.plays i).events) :
    ∃ m', Sound plays m₀ (c.write i e) m' := by
  cases begins : e.begins with
  | false => exact sound.write_later next begins
  | true =>
    cases e with
    | began entry =>
      have untold := (sound.leads i).untold fresh next
      by_cases free : m.kept? (c.name i) = none
      · exact ⟨_, sound.write_new untold next free⟩
      · exact ⟨_, sound.write_taken untold next free⟩
    | _ => cases begins

/-- A session whose name another one has taken leaves the archive as it is. -/
theorem keeper_write {entry : Text} (first : c.opener? (c.name i) = some (j, entry))
    (other : j ≠ i) : (c.write i e).keeper = c.keeper := by
  have unrecorded : c.began i = false := by
    rw [Bool.eq_false_iff]
    intro began
    obtain ⟨-, entry', first'⟩ := (sound.began i).mp began
    rw [first] at first'
    cases first'
    exact other rfl
  have known : m.knows (c.name i) := by
    simp [Transcript.Memory.knows_eq_isSome, sound.kept, transcript?, first]
  unfold Company.write
  rw [unrecorded]
  cases e with
  | began entry' =>
    refine (sound.keeps.start (c.name i) entry').2.2 ?_
    simp [Transcript.Memory.start, known]
  | _ => rfl

end Sound

/-- Whatever happens in a company, its archive keeps the first session to begin under each name. -/
theorem Leads.sound {plays : ι → Play σ} {keeper : Archive.Kept} {m₀ : Transcript.Memory}
    (fresh : ∀ i, (plays i).Fresh) (keeps : Archive.Keeps m₀ keeper)
    (leads : Leads { plays, keeper } c) : ∃ m, Sound plays m₀ c m := by
  induction leads with
  | refl =>
    refine ⟨m₀, keeps, fun i => .refl, fun i => List.nil_prefix, ?_, ?_⟩
    · simp [transcript?, opener?]
    · simp [opener?]
  | tail _ step ih =>
    obtain ⟨m, sound⟩ := ih
    cases step with
    | play i step => exact ⟨m, sound.play step⟩
    | write i next => exact sound.write (fresh i) next

/-- Events of a session come to the archive in turn. -/
def writeAll (c : Company ι σ) (i : ι) (es : List Event) : Company ι σ :=
  es.foldl (fun c e => c.write i e) c

/-- A session is called, and all that it leaves behind comes to the archive before anything else. -/
def call (c : Company ι σ) (i : ι) (h : Host σ) (d : Deed σ) : Company ι σ :=
  let p := ((c.plays i).perform h d).2
  (c.play i p).writeAll i (p.events.drop (c.heard i).length)

theorem leads_writeAll {es : List Event} (next : c.heard i ++ es <+: (c.plays i).events) :
    c.Leads (c.writeAll i es) := by
  induction es generalizing c with
  | nil => exact .refl
  | cons e es ih =>
    have first : c.heard i ++ [e] <+: (c.plays i).events := by
      refine List.IsPrefix.trans ?_ next
      simp
    refine .head (.write c i first) (ih ?_)
    rw [heard_write, if_pos rfl, List.append_assoc]
    exact next

/-- Whatever happened before, a call of a session may come next. -/
theorem Leads.call {plays : ι → Play σ} {keeper : Archive.Kept} {m₀ : Transcript.Memory}
    (fresh : ∀ i, (plays i).Fresh) (keeps : Archive.Keeps m₀ keeper)
    (leads : Leads { plays, keeper } c) (i : ι) (h : Host σ) (d : Deed σ) :
    Leads { plays, keeper } (c.call i h d) := by
  obtain ⟨m, sound⟩ := leads.sound fresh keeps
  have step : (c.plays i).Step ((c.plays i).perform h d).2 := .perform h _ d
  refine leads.trans (.head (.play c i step) (leads_writeAll ?_))
  obtain ⟨rest, grown⟩ := (sound.heard i).trans (Play.Leads.events (.single step))
  have played : (c.play i ((c.plays i).perform h d).2).plays i = ((c.plays i).perform h d).2 :=
    Function.update_self ..
  rw [played, ← grown, List.drop_left]
  exact List.prefix_refl _

end Company

/-- Sessions that share an archive do not mix: for each name it keeps what it kept before, or else
    the transcript of the first session to begin under that name, made from the events of that
    session in their order. A session whose name another one has taken leaves the archive as it
    is. -/
theorem sessions_do_not_mix {ι σ : Type} [DecidableEq ι] {plays : ι → Play σ}
    {keeper : Archive.Kept} {m : Transcript.Memory} {c : Company ι σ}
    (fresh : ∀ i, (plays i).Fresh) (keeps : Archive.Keeps m keeper)
    (leads : Company.Leads { plays, keeper } c) :
    (∀ id, ∃ before, Archive.transcript? id keeper = .ok before ∧
        Archive.transcript? id c.keeper = .ok (before.or (c.transcript? id))) ∧
      (∀ i, c.heard i <+: (c.plays i).events) ∧
      ∀ i j entry, c.opener? (c.name i) = some (j, entry) → j ≠ i →
        ∀ e, (c.write i e).keeper = c.keeper := by
  obtain ⟨m', sound⟩ := leads.sound fresh keeps
  refine ⟨?_, sound.heard, ?_⟩
  · intro id
    refine ⟨m.kept? id, keeps.transcript? id, ?_⟩
    rw [sound.keeps.transcript?, sound.kept]
  · intro i j entry first other e
    exact sound.keeper_write first other

/-- Two sessions of one name: the one that begins second is not recorded, whatever it does between
    the calls of the other. -/
theorem sessions_do_not_mix_vault :
    let play : Play Unit := ⟨{ id := "v", inventory := .ofItems [] }, { directory := "/" }, (), []⟩
    let before : Company Bool Unit :=
      { plays := fun _ => play, keeper := (Archive.ofMemory, { directory := "/" }) }
    let entry : Deed Unit := .move (.start ⟨"a", "m", "s"⟩)
    let started := (before.call true Story.vault.host entry).call false Story.vault.host entry
    let c := (started.call false Story.vault.host .cancel).call true Story.vault.host
      (.move (.choose "1"))
    before.Leads c ∧ c.name false = c.name true ∧ c.began false = false ∧
      ∃ entry, c.opener? "v" = some (true, entry) ∧
        Archive.transcript? "v" c.keeper =
          .ok (some (Transcript.ofEvents "v" entry (c.heard true))) := by
  intro play before entry started c
  have fresh : ∀ i, (before.plays i).Fresh := fun _ => ⟨"v", 0, [], _, _, rfl⟩
  have next {c : Company Bool Unit} (leads : before.Leads c) (i : Bool) (d : Deed Unit) :
      before.Leads (c.call i Story.vault.host d) := leads.call fresh (.memory _) i _ d
  have leads : before.Leads c := next (next (next (next .refl ..) ..) ..) ..
  have empty : Archive.transcript? "v" before.keeper = .ok none := by decide +kernel
  obtain ⟨named, unrecorded, opened⟩ : c.name false = c.name true ∧ c.began false = false ∧
      c.opener? "v" = some (true, ("@file(\"a\")::m::s" : Text)) := by decide +kernel
  refine ⟨leads, named, unrecorded, _, opened, ?_⟩
  obtain ⟨old, asked, kept⟩ := (sessions_do_not_mix fresh (.memory _) leads).1 "v"
  obtain rfl : none = old := Except.ok.inj (empty.symm.trans asked)
  rw [kept, Company.transcript?, opened]
  rfl

end Gamebook
