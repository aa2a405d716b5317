import Gamebook.Proofs.Session.Steps
import Mathlib.Data.List.Forall2

/-! # Sessions side by side

Two sessions are played side by side, each with a host, a world, a crew and a tape of its own. As long
as the hosts answer alike, about files only if these are needed (`Play.soughtAll`), and the crews look
scenes up alike, the sessions stay the same: neither what a crew writes down nor whether it can is
looked at again. What becomes of the worlds and the tapes is said by relations that hosts and crews
keep.
-/

namespace Gamebook

variable {σ υ τ κ : Type} {R : List Text} {W : σ → υ → Prop} {T : Text → τ → κ → Prop}

/-! ## The files that are needed -/

namespace Loader

/-- The canonical form of a path, if it has one. -/
def sought (l : Loader) (path : Text) : List Text :=
  (Path.canonical l.directory path).toOption.toList

/-- The file that following a target from a scene needs, if it is another one. -/
def soughtFrom (l : Loader) (origin : Address) : Target → List Text
  | .sameFile .. => []
  | .otherFile path _ _ => l.sought (targetPath origin path)

end Loader

namespace Play

variable [Crew τ]

/-- The files that a move needs: that of the entry, or that of a target in another file that is
    chosen. Nothing is chosen in a session that is to stop. -/
def sought (h : Host σ) (p : Play σ τ) : Move → List Text
  | .start entry => if p.session.stage = .awaitingEntry then p.loader.sought entry.file else []
  | .choose input =>
    if p.session.stage = .awaitingChoice ∧ (h.halted p.world).1 = none then
      match pick? p.session.offers input with
      | some (_, offer) => p.loader.soughtFrom p.session.position offer.branch.target
      | none => []
    else []

def soughtAttending (h : Host σ) : List (Answer σ) → Play σ τ → List Text
  | [], _ => []
  | answer :: rest, p =>
    if p.session.stage ≠ .awaitingChoice then []
    else
      match answer p.session.offers.length p.world with
      | (.error _, _) => []
      | (.ok input, w) =>
        { p with world := w }.sought h (.choose input) ++
          soughtAttending h rest ({ p with world := w }.choose h input).2

def soughtBy (h : Host σ) (p : Play σ τ) : Deed σ → List Text
  | .move m => p.sought h m
  | .run none _ | .cancel | .meanwhile _ => []
  | .run (some player) entry =>
    p.sought h (.start entry) ++
      match p.start h entry with
      | (some _, _) => []
      | (none, p) => p.soughtAttending h player.answers

/-- The files that calls in turn need. -/
def soughtAll (h : Host σ) (p : Play σ τ) : List (Deed σ) → List Text
  | [] => []
  | d :: rest => p.soughtBy h d ++ (p.perform h d).2.soughtAll h rest

end Play

/-! ## Two hosts -/

/-- That two answers are the same and leave behind things that are related. -/
inductive Paired {α : Type} (W : σ → υ → Prop) : α × σ → α × υ → Prop where
  | intro (answer : α) {w : σ} {v : υ} (after : W w v) : Paired W (answer, w) (answer, v)

theorem Paired.answer {α : Type} {a : α × σ} {b : α × υ} (paired : Paired W a b) : b.1 = a.1 := by
  cases paired
  rfl

theorem Paired.after {α : Type} {a : α × σ} {b : α × υ} (paired : Paired W a b) : W a.2 b.2 := by
  cases paired
  assumption

/-- That two hosts answer alike, about files only if they are in the list. -/
structure Host.Matches (R : List Text) (W : σ → υ → Prop) (h : Host σ) (k : Host υ) : Prop where
  halted : ∀ {w v}, W w v → Paired W (h.halted w) (k.halted v)
  read : ∀ {w v} (path), path ∈ R → W w v → Paired W (h.read path w) (k.read path v)
  tell : ∀ {w v} (lines), W w v → Paired W (h.tell lines w) (k.tell lines v)
  offer : ∀ {w v} (choices), W w v → Paired W (h.offer choices w) (k.offer choices v)
  complain : ∀ {w v} (message), W w v → Paired W (h.complain message w) (k.complain message v)

def Answer.Matches (W : σ → υ → Prop) (f : Answer σ) (g : Answer υ) : Prop :=
  ∀ n {w v}, W w v → Paired W (f n w) (g n v)

structure Player.Matches (W : σ → υ → Prop) (a : Player σ) (b : Player υ) : Prop where
  answers : List.Forall₂ (Answer.Matches W) a.answers b.answers
  last : ∀ n {w v}, W w v → Paired W (a.last n w) (b.last n v)

inductive Deed.Matches (W : σ → υ → Prop) : Deed σ → Deed υ → Prop where
  | move (m : Move) : Matches W (.move m) (.move m)
  | nobody (entry : Address) : Matches W (.run none entry) (.run none entry)
  | run {a : Player σ} {b : Player υ} (players : a.Matches W b) (entry : Address) :
    Matches W (.run (some a) entry) (.run (some b) entry)
  | cancel : Matches W .cancel .cancel
  | meanwhile {f : σ → σ} {g : υ → υ} (alike : ∀ {w v}, W w v → W (f w) (g v)) :
    Matches W (.meanwhile f) (.meanwhile g)

/-- That the same comes of asking two loaders for something. -/
structure Fetched.Matches {α : Type} (W : σ → υ → Prop) (f : Fetched σ α) (g : Fetched υ α) :
    Prop where
  result : g.result = f.result
  loader : g.loader = f.loader
  log : g.log = f.log
  world : W f.world g.world

namespace Loader

variable {h : Host σ} {k : Host υ} (hosts : h.Matches R W k) {l : Loader} {w : σ} {v : υ}
include hosts

theorem load_matches {path : Text} (needs : l.sought path ⊆ R) (alike : W w v) :
    (l.load h.read path w).Matches W (l.load k.read path v) := by
  unfold load
  cases canonical : Path.canonical l.directory path with
  | error cause => exact ⟨rfl, rfl, rfl, alike⟩
  | ok key =>
    dsimp only
    cases l.cache.lookup key with
    | some loaded => exact ⟨rfl, rfl, rfl, alike⟩
    | none =>
      have same := hosts.read key
        (needs (by simp [sought, canonical, Except.toOption])) alike
      dsimp only
      generalize h.read key w = a at same
      generalize k.read key v = b at same
      obtain ⟨result, after⟩ := same
      cases result with
      | ok text => exact ⟨rfl, rfl, rfl, after⟩
      | error cause => exact ⟨rfl, rfl, rfl, after⟩

theorem resolve_matches {a : Address} (needs : l.sought a.file ⊆ R) (alike : W w v) :
    (l.resolve h.read a w).Matches W (l.resolve k.read a v) := by
  obtain ⟨result, loader, log, world⟩ := load_matches hosts needs alike
  exact ⟨by simp only [resolve, result], loader, log, world⟩

theorem follow_matches {origin : Address} {target : Target} {look : Lookup}
    (needs : l.soughtFrom origin target ⊆ R) (alike : W w v) :
    (l.follow h.read origin target w look).Matches W (l.follow k.read origin target v look) := by
  cases target with
  | sameFile module scene => exact ⟨rfl, rfl, rfl, alike⟩
  | otherFile path module scene =>
    exact resolve_matches (a := ⟨targetPath origin path, module, scene⟩) hosts needs alike

end Loader

theorem Paired.of_eq {α : Type} {a b : α × σ} (same : a = b) : Paired Eq a b := by
  subst same
  exact .intro a.1 rfl

/-- Hosts that differ in other files only answer alike. -/
theorem Host.matches_of_agree {h : Host σ} {read : ReadFile σ}
    (agree : ∀ path ∈ R, ∀ w, read path w = h.read path w) :
    h.Matches R Eq { h with read } where
  halted same := .of_eq (congrArg h.halted same)
  read path wanted same := .of_eq (by rw [same]; exact (agree path wanted _).symm)
  tell lines same := .of_eq (congrArg (h.tell lines) same)
  offer choices same := .of_eq (congrArg (h.offer choices) same)
  complain message same := .of_eq (congrArg (h.complain message) same)

theorem Host.matches_self (h : Host σ) : h.Matches R Eq h :=
  matches_of_agree fun _ _ _ => rfl

theorem Player.matches_self (player : Player σ) : player.Matches Eq player where
  answers := List.forall₂_same.mpr fun answer _ n _ _ same => .of_eq (congrArg (answer n) same)
  last n _ _ same := .of_eq (congrArg (player.last n) same)

theorem Deed.matches_self (d : Deed σ) : d.Matches Eq d := by
  cases d with
  | move m => exact .move m
  | cancel => exact .cancel
  | meanwhile change => exact .meanwhile (congrArg change)
  | run player entry =>
    cases player with
    | none => exact .nobody entry
    | some player => exact .run player.matches_self entry

/-! ## Two crews

A crew is asked for three things: to write down that a session begins, that something happened, and
that it is over. Whatever it answers, nothing but the tape is changed. -/

namespace Play

/-- That two plays differ in their tapes at most. -/
structure Retaped (p q : Play σ τ) : Prop where
  session : q.session = p.session
  loader : q.loader = p.loader
  world : q.world = p.world

theorem Retaped.trans {p q r : Play σ τ} (first : p.Retaped q) (second : q.Retaped r) :
    p.Retaped r :=
  ⟨second.session.trans first.session, second.loader.trans first.loader,
    second.world.trans first.world⟩

variable [Crew τ] (p : Play σ τ)

theorem retaped_written (result : Option Failure × τ) (message : Text)
    (fields : List (Text × Log.Value)) : p.Retaped (p.written result message fields) := by
  rcases result with ⟨- | failure, tape⟩
  · exact ⟨rfl, rfl, rfl⟩
  · exact ⟨rfl, rfl, rfl⟩

theorem retaped_announced (entry : Address) : p.Retaped (p.announced entry) := by
  unfold announced
  split
  · exact ⟨rfl, rfl, rfl⟩
  · exact ⟨rfl, rfl, rfl⟩

theorem retaped_happen (moment : Moment) (detail : Text) : p.Retaped (p.happen moment detail) := by
  unfold happen
  split
  · exact p.retaped_written ..
  · exact ⟨rfl, rfl, rfl⟩

theorem retaped_closed (f : Failure) : p.Retaped (p.closed f) := by
  unfold closed
  split
  · exact (p.retaped_happen _ _).trans (retaped_written ..)
  · exact ⟨rfl, rfl, rfl⟩

end Play

/-- That two crews look scenes up alike, and keep a relation between their tapes whatever is written
    down of a session. -/
structure Crew.Matches [Crew τ] [Crew κ] (T : Text → τ → κ → Prop) : Prop where
  look : Crew.look κ = Crew.look τ
  log : ∀ {id t u} (entry : Log.Entry), T id t u → T id (Crew.log entry t) (Crew.log entry u)
  announced : ∀ {σ υ : Type} {p : Play σ τ} {q : Play υ κ} (entry : Address),
    q.session = p.session → T p.session.id p.events q.events →
      T p.session.id (p.announced entry).events (q.announced entry).events
  happen : ∀ {σ υ : Type} {p : Play σ τ} {q : Play υ κ} (moment : Moment) (detail : Text),
    q.session = p.session → T p.session.id p.events q.events →
      T p.session.id (p.happen moment detail).events (q.happen moment detail).events
  closed : ∀ {σ υ : Type} {p : Play σ τ} {q : Play υ κ} (f : Failure),
    q.session = p.session → T p.session.id p.events q.events →
      T p.session.id (p.closed f).events (q.closed f).events

section Alone

variable [Crew τ] {p : Play σ τ} {q : Play υ τ} (session : q.session = p.session)
  (events : p.events = q.events)
include session events

omit events in
theorem Play.events_written (result : Option Failure × τ) (message : Text)
    (fields : List (Text × Log.Value)) :
    (p.written result message fields).events = (q.written result message fields).events := by
  rcases result with ⟨- | failure, tape⟩
  · rfl
  · simp only [written, warn, note, session]

theorem Play.events_announced (entry : Address) :
    (p.announced entry).events = (q.announced entry).events := by
  unfold announced
  rw [session, events]
  split
  · simp only [warn, note]
  · rfl

theorem Play.events_happen (moment : Moment) (detail : Text) :
    (p.happen moment detail).events = (q.happen moment detail).events := by
  unfold happen
  rw [session, events]
  split
  · exact events_written session ..
  · exact events

theorem Play.events_closed (f : Failure) : (p.closed f).events = (q.closed f).events := by
  have told := events_happen session events .ending f.text
  have same : (q.happen .ending f.text).session = (p.happen .ending f.text).session := by
    rw [(retaped_happen q ..).session, (retaped_happen p ..).session, session]
  unfold closed
  rw [events]
  split
  · dsimp only
    rw [told, same]
    exact events_written same ..
  · exact events

end Alone

/-- A crew writes the same on equal tapes. -/
theorem Crew.matches_self [Crew τ] : Crew.Matches fun _ (t u : τ) => t = u where
  look := rfl
  log entry same := congrArg (Crew.log entry) same
  announced entry session events := Play.events_announced session events entry
  happen moment detail session events := Play.events_happen session events moment detail
  closed f session events := Play.events_closed session events f

/-! ## Two plays -/

namespace Play

/-- That two plays are of the same session, with worlds and tapes that are related. -/
inductive Abreast (W : σ → υ → Prop) (T : Text → τ → κ → Prop) : Play σ τ → Play υ κ → Prop where
  | intro {s : Session} {l : Loader} {w : σ} {v : υ} {t : τ} {u : κ} (world : W w v)
    (events : T s.id t u) : Abreast W T ⟨s, l, w, t⟩ ⟨s, l, v, u⟩

/-- That two answers are the same and leave two plays of the same session. -/
abbrev Same (W : σ → υ → Prop) (T : Text → τ → κ → Prop) :
    Option Failure × Play σ τ → Option Failure × Play υ κ → Prop :=
  Paired (Abreast W T)

variable {p p' : Play σ τ} {q q' : Play υ κ}

namespace Abreast

theorem session (abreast : Abreast W T p q) : q.session = p.session := by
  cases abreast
  rfl

theorem loader (abreast : Abreast W T p q) : q.loader = p.loader := by
  cases abreast
  rfl

theorem world (abreast : Abreast W T p q) : W p.world q.world := by
  cases abreast
  assumption

theorem events (abreast : Abreast W T p q) : T p.session.id p.events q.events := by
  cases abreast
  assumption

/-- The worlds may change. -/
theorem inWorlds (abreast : Abreast W T p q) {w : σ} {v : υ} (after : W w v) :
    Abreast W T { p with world := w } { q with world := v } := by
  obtain ⟨-, events⟩ := abreast
  exact .intro after events

/-- The session may change in any way, as long as it keeps its name. -/
theorem restaged (abreast : Abreast W T p q) (change : Session → Session)
    (named : ∀ s, (change s).id = s.id) :
    Abreast W T { p with session := change p.session } { q with session := change q.session } := by
  obtain @⟨s, l, w, v, t, u, world, events⟩ := abreast
  refine .intro world ?_
  rw [named s]
  exact events

/-- The tapes may be written on. -/
theorem retaped (abreast : Abreast W T p q) (first : p.Retaped p') (second : q.Retaped q')
    (events : T p.session.id p'.events q'.events) : Abreast W T p' q' := by
  obtain ⟨s, l, w, t⟩ := p'
  obtain ⟨s', l', v, u⟩ := q'
  obtain ⟨rfl, rfl, rfl⟩ := first
  obtain ⟨same, same', rfl⟩ := second
  obtain rfl : s' = p.session := same.trans abreast.session
  obtain rfl : l' = p.loader := same'.trans abreast.loader
  exact .intro abreast.world events

end Abreast

/-- Plays stay the same with another answer in place of none. -/
theorem Same.otherwise {r : Option Failure × Play σ τ} {s : Option Failure × Play υ κ}
    (f : Failure) :
    Same W T r s →
      Same W T (match r with | (some failure, p) => (some failure, p) | (none, p) => (some f, p))
        (match s with | (some failure, p) => (some failure, p) | (none, p) => (some f, p)) := by
  rintro ⟨- | failure, after⟩
  · exact .intro _ after
  · exact .intro _ after

section Calls

variable [Crew τ] [Crew κ] (crews : Crew.Matches T) {h : Host σ} {k : Host υ}

namespace Abreast

include crews

theorem note (abreast : Abreast W T p q) (level : Log.Level) (message : Text)
    (fields : List (Text × Log.Value)) :
    Abreast W T (p.note level message fields) (q.note level message fields) := by
  obtain ⟨world, events⟩ := abreast
  exact .intro world (crews.log _ events)

theorem announced (abreast : Abreast W T p q) (entry : Address) :
    Abreast W T (p.announced entry) (q.announced entry) :=
  abreast.retaped (p.retaped_announced entry) (q.retaped_announced entry)
    (crews.announced entry abreast.session abreast.events)

theorem happen (abreast : Abreast W T p q) (moment : Moment) (detail : Text) :
    Abreast W T (p.happen moment detail) (q.happen moment detail) :=
  abreast.retaped (p.retaped_happen moment detail) (q.retaped_happen moment detail)
    (crews.happen moment detail abreast.session abreast.events)

theorem closed (abreast : Abreast W T p q) (f : Failure) :
    Abreast W T (p.closed f) (q.closed f) :=
  abreast.retaped (p.retaped_closed f) (q.retaped_closed f)
    (crews.closed f abreast.session abreast.events)

theorem fetched {α : Type} (abreast : Abreast W T p q) {f : Fetched σ α} {g : Fetched υ α}
    (alike : f.Matches W g) : Abreast W T (p.fetched f) (q.fetched g) := by
  obtain ⟨-, loader, log, world⟩ := alike
  obtain @⟨s, l, w, v, t, u, -, events⟩ := abreast
  simp only [Play.fetched, loader, log]
  refine .intro world ?_
  generalize f.log = entries
  induction entries generalizing t u with
  | nil => exact events
  | cons entry rest ih => exact ih (crews.log entry events)

theorem endingNote (abreast : Abreast W T p q) (f : Failure) :
    Abreast W T (p.endingNote f) (q.endingNote f) := by
  unfold Play.endingNote
  rw [abreast.session, abreast.loader]
  dsimp only
  split
  · exact abreast.note crews ..
  · exact abreast.note crews ..

theorem finish (abreast : Abreast W T p q) (f : Failure) :
    Same W T (p.finish f) (q.finish f) :=
  .intro _ (((abreast.restaged (·.finished f) fun _ => rfl).closed crews f).endingNote crews f)

theorem cancel (abreast : Abreast W T p q) : Abreast W T p.cancel q.cancel := by
  unfold Play.cancel
  rw [abreast.session]
  split
  · exact abreast
  · exact (abreast.finish crews _).after

theorem shown (abreast : Abreast W T p q) {a : Option Failure × σ} {b : Option Failure × υ}
    (paired : Paired W a b) {next : Play σ τ → Option Failure × Play σ τ}
    {next' : Play υ κ → Option Failure × Play υ κ}
    (go : ∀ {q'}, Abreast W T { p with world := a.2 } q' →
      Same W T (next { p with world := a.2 }) (next' q')) :
    Same W T (p.shown a next) (q.shown b next') := by
  obtain ⟨- | cause, after⟩ := paired
  · exact go (abreast.inWorlds after)
  · exact (abreast.inWorlds after).finish crews _

variable (hosts : h.Matches R W k)
include hosts

theorem unlessHalted (abreast : Abreast W T p q) {next : Play σ τ → Option Failure × Play σ τ}
    {next' : Play υ κ → Option Failure × Play υ κ}
    (go : ∀ {q'}, (h.halted p.world).1 = none →
      Abreast W T { p with world := (h.halted p.world).2 } q' →
      Same W T (next { p with world := (h.halted p.world).2 }) (next' q')) :
    Same W T (p.unlessHalted h next) (q.unlessHalted k next') := by
  have paired := hosts.halted abreast.world
  unfold Play.unlessHalted
  generalize h.halted p.world = a at paired go
  generalize k.halted q.world = b at paired
  obtain ⟨- | cause, after⟩ := paired
  · exact go rfl (abreast.inWorlds after)
  · exact (abreast.inWorlds after).finish crews _

theorem present (abreast : Abreast W T p q) : Same W T (p.present h) (q.present k) := by
  unfold Play.present
  rw [abreast.session]
  exact abreast.shown crews (hosts.offer _ abreast.world) fun after => .intro none after

theorem offerBranches (abreast : Abreast W T p q) (found : Found) :
    Same W T (p.offerBranches h found) (q.offerBranches k found) := by
  have offering := abreast.restaged
    (fun s => { s with offers := found.scene.offers s.inventory, stage := .awaitingChoice })
    fun _ => rfl
  unfold Play.offerBranches
  rw [abreast.session, abreast.loader, crews.look] at *
  dsimp only
  split
  · exact abreast.finish crews _
  · split
    · exact abreast.finish crews _
    · exact offering.present crews hosts

omit hosts in
theorem changes (abreast : Abreast W T p q) (changed : List Effect) :
    Abreast W T (changed.foldl (fun p e => p.happen .inventory e.text) p)
      (changed.foldl (fun q e => q.happen .inventory e.text) q) := by
  induction changed generalizing p q with
  | nil => exact abreast
  | cons e rest ih => exact ih (abreast.happen crews .inventory e.text)

omit hosts in
theorem arrive (abreast : Abreast W T p q) (found : Found) (inventory : Inventory)
    (changed : List Effect) :
    Abreast W T (p.arrive found inventory changed) (q.arrive found inventory changed) := by
  have entered := (abreast.restaged
    (fun s => { s with current := some found, inventory, retries := 0 }) fun _ => rfl).happen
      crews .enter []
  exact (entered.changes crews changed).note crews ..

theorem receive (abreast : Abreast W T p q) (found : Found) (inventory : Inventory)
    (changed : List Effect) :
    Same W T (p.receive h found inventory changed) (q.receive k found inventory changed) := by
  have arrived := abreast.arrive crews found inventory changed
  unfold Play.receive
  dsimp only
  split
  · exact arrived.shown crews (hosts.tell _ arrived.world) fun after =>
      after.offerBranches crews hosts found
  · exact arrived.offerBranches crews hosts found

theorem enter (abreast : Abreast W T p q) (found : Found) :
    Same W T (p.enter h found) (q.enter k found) := by
  have presenting := abreast.restaged (fun s => { s with stage := .presenting }) fun _ => rfl
  unfold Play.enter
  rw [abreast.session] at *
  exact presenting.unlessHalted crews hosts fun _ after => after.receive crews hosts found _ _

theorem pursue (abreast : Abreast W T p q) {f : Fetched σ Found} {g : Fetched υ Found}
    (alike : f.Matches W g) (locate : Failure → Failure) :
    Same W T (p.pursue h f locate) (q.pursue k g locate) := by
  have fetched := abreast.fetched crews alike
  unfold Play.pursue
  rw [alike.result]
  split
  · exact fetched.finish crews _
  · exact fetched.enter crews hosts _

theorem start (abreast : Abreast W T p q) {entry : Address}
    (needs : p.sought h (.start entry) ⊆ R) : Same W T (p.start h entry) (q.start k entry) := by
  by_cases fresh : p.session.stage = .awaitingEntry
  · simp only [sought, fresh, if_true] at needs
    have begun : Abreast W T (p.begun entry) (q.begun entry) :=
      (abreast.announced crews entry).note crews ..
    unfold Play.start
    rw [abreast.session, if_neg (not_not.mpr fresh), if_neg (not_not.mpr fresh)]
    refine begun.unlessHalted crews hosts fun _ after => ?_
    have loader : (p.begun entry).loader = p.loader := (p.retaped_announced entry).loader
    rw [← loader] at needs
    have alike := Loader.resolve_matches (l := (p.begun entry).loader) hosts needs after.world
    rw [show Play.loader _ = (p.begun entry).loader from after.loader]
    exact after.pursue crews hosts alike id
  · have fresh' : q.session.stage ≠ .awaitingEntry := by
      rw [abreast.session]
      exact fresh
    rw [start_of_ne h entry fresh, start_of_ne k entry fresh', abreast.session]
    exact .intro _ abreast

omit hosts in
theorem leaving (abreast : Abreast W T p q) (n : Nat) (offer : Offer) :
    Abreast W T (p.leaving n offer) (q.leaving n offer) :=
  ((abreast.happen crews ..).note crews ..).restaged
    (fun s => { s with stage := .transitioning, offers := [] }) fun _ => rfl

theorem take (abreast : Abreast W T p q) {n : Nat} {offer : Offer}
    (needs : p.loader.soughtFrom p.session.position offer.branch.target ⊆ R) :
    Same W T (p.take h n offer) (q.take k n offer) := by
  have left := abreast.leaving crews n offer
  have loader : (p.leaving n offer).loader = p.loader := (p.retaped_happen ..).loader
  rw [← loader] at needs
  unfold Play.take
  dsimp only
  rw [abreast.session, crews.look, left.loader]
  exact left.pursue crews hosts (Loader.follow_matches hosts needs left.world) _

omit hosts in
theorem mistaken (abreast : Abreast W T p q) (input : Text) :
    Abreast W T (p.mistaken input) (q.mistaken input) := by
  have counted := abreast.restaged Session.mistaken fun _ => rfl
  unfold Play.mistaken
  dsimp only
  rw [abreast.session] at *
  exact (counted.happen crews ..).note crews ..

theorem insist (abreast : Abreast W T p q) (problem : Problem) (address : Text) :
    Same W T (p.insist h problem address) (q.insist k problem address) := by
  unfold Play.insist
  rw [abreast.session]
  split
  · exact abreast.finish crews _
  · exact Same.otherwise _ (abreast.present crews hosts)

theorem reject (abreast : Abreast W T p q) (input : Text) :
    Same W T (p.reject h input) (q.reject k input) := by
  have mistaken := abreast.mistaken crews input
  unfold Play.reject
  dsimp only
  rw [abreast.session]
  exact mistaken.shown crews (hosts.complain _ mistaken.world) fun after =>
    after.insist crews hosts _ _

theorem choose (abreast : Abreast W T p q) {input : Text}
    (needs : p.sought h (.choose input) ⊆ R) : Same W T (p.choose h input) (q.choose k input) := by
  by_cases waiting : p.session.stage = .awaitingChoice
  · unfold Play.choose
    rw [abreast.session, if_neg (not_not.mpr waiting), if_neg (not_not.mpr waiting)]
    refine abreast.unlessHalted crews hosts fun goes after => ?_
    simp only [sought, waiting, goes, and_self, if_true] at needs
    rw [after.session]
    dsimp only
    cases picked : pick? p.session.offers input with
    | none => exact after.reject crews hosts input
    | some choice =>
      rw [picked] at needs
      exact after.take crews hosts needs
  · have waiting' : q.session.stage ≠ .awaitingChoice := by
      rw [abreast.session]
      exact waiting
    rw [choose_of_ne h input waiting, choose_of_ne k input waiting', abreast.session]
    exact .intro _ abreast

theorem unanswered (abreast : Abreast W T p q) (cause : Failure) :
    Same W T (p.unanswered h cause) (q.unanswered k cause) := by
  unfold Play.unanswered
  split
  · exact abreast.finish crews _
  · have paired := hosts.halted abreast.world
    generalize h.halted p.world = a at paired
    generalize k.halted q.world = b at paired
    obtain ⟨stop?, after⟩ := paired
    dsimp only
    split
    · exact (abreast.inWorlds after).finish crews _
    · exact (abreast.inWorlds after).finish crews _

theorem attend {last : Nat → σ → Failure × σ} {last' : Nat → υ → Failure × υ}
    (lasts : ∀ n {w v}, W w v → Paired W (last n w) (last' n v)) {as : List (Answer σ)}
    {bs : List (Answer υ)} (answers : List.Forall₂ (Answer.Matches W) as bs)
    (abreast : Abreast W T p q) (needs : p.soughtAttending h as ⊆ R) :
    Same W T (p.attend h last as) (q.attend k last' bs) := by
  -- Both players give the same answer each time, so both sessions ask for the next one or neither.
  induction answers generalizing p q with
  | nil =>
    obtain @⟨s, l, w, v, t, u, world, events⟩ := abreast
    unfold Play.attend
    split
    · exact .intro _ (.intro world events)
    · have paired := lasts s.offers.length world
      dsimp only
      generalize last s.offers.length w = a at paired
      generalize last' s.offers.length v = b at paired
      obtain ⟨cause, after⟩ := paired
      exact unanswered crews hosts (.intro after events) cause
  | @cons f g _ _ matched _ ih =>
    obtain @⟨s, l, w, v, t, u, world, events⟩ := abreast
    unfold Play.attend
    unfold soughtAttending at needs
    split
    · exact .intro _ (.intro world events)
    · next waiting =>
      rw [if_neg waiting] at needs
      have paired := matched s.offers.length world
      dsimp only at needs ⊢
      generalize f s.offers.length w = a at paired needs
      generalize g s.offers.length v = b at paired
      obtain @⟨cause | input, w, v, after⟩ := paired
      · exact unanswered crews hosts (.intro after events) cause
      · obtain ⟨needed, rest⟩ := List.append_subset.mp needs
        have abreast : Abreast W T ⟨s, l, w, t⟩ ⟨s, l, v, u⟩ := .intro after events
        have chosen := abreast.choose crews hosts needed
        dsimp only
        generalize Play.choose h input ⟨s, l, w, t⟩ = a at chosen rest
        generalize Play.choose k input ⟨s, l, v, u⟩ = b at chosen
        obtain @⟨answer, p, q, later⟩ := chosen
        have attended := ih later rest
        cases answer with
        | none => exact attended
        | some failure =>
          dsimp only
          rw [later.session]
          split
          · exact .intro _ later
          · exact attended

theorem run {a : Player σ} {b : Player υ} (players : a.Matches W b) {entry : Address}
    (abreast : Abreast W T p q) (needs : p.soughtBy h (.run (some a) entry) ⊆ R) :
    Same W T (p.run h (some a) entry) (q.run k (some b) entry) := by
  obtain ⟨first, rest⟩ := List.append_subset.mp needs
  have started := abreast.start crews hosts first
  unfold Play.run
  dsimp only
  generalize p.start h entry = r at started rest
  generalize q.start k entry = s at started
  obtain ⟨- | failure, after⟩ := started
  · exact after.attend crews hosts players.last players.answers rest
  · exact .intro _ after

theorem perform {d : Deed σ} {e : Deed υ} (deeds : d.Matches W e) (abreast : Abreast W T p q)
    (needs : p.soughtBy h d ⊆ R) : Same W T (p.perform h d) (q.perform k e) := by
  cases deeds with
  | move m =>
    cases m with
    | start entry => exact abreast.start crews hosts needs
    | choose input => exact abreast.choose crews hosts needs
  | nobody entry => exact .intro _ abreast
  | run players entry => exact abreast.run crews hosts players needs
  | cancel => exact .intro _ (abreast.cancel crews)
  | meanwhile changes => exact .intro _ (abreast.inWorlds (changes abreast.world))

/-- Sessions side by side stay the same, as long as the hosts answer alike about the files that are
    needed. -/
theorem performAll {ds : List (Deed σ)} {es : List (Deed υ)}
    (deeds : List.Forall₂ (Deed.Matches W) ds es) (abreast : Abreast W T p q)
    (needs : p.soughtAll h ds ⊆ R) :
    List.Forall₂ (Same W T) (p.performAll h ds) (q.performAll k es) := by
  induction deeds generalizing p q with
  | nil => exact .nil
  | @cons d e _ _ matched _ ih =>
    obtain ⟨now, later⟩ := List.append_subset.mp needs
    have performed := abreast.perform crews hosts matched now
    unfold Play.performAll
    generalize p.perform h d = r at performed later
    generalize q.perform k e = s at performed
    obtain ⟨answer, after⟩ := performed
    exact .cons (.intro answer after) (ih after later)

end Abreast

end Calls

end Play

end Gamebook
