import Gamebook.Theater
import Gamebook.Proofs.Session.Endings
import Gamebook.Proofs.Session.Live

/-! # Sessions in a theater

A theater fails in plain words: whatever its disk or its screen says, it names no problem, as long as
nothing it was given does. So its sessions end with a code of their own, and the archive in which they
are recorded while they are played tells how they ended.
-/

namespace Gamebook

namespace Disk

variable {d : Disk} {link : Link}

theorem step_plain {place : Text × Node} {name : Text} (failed : d.step place name = .error link) :
    link.report? = none := by
  unfold step at failed
  split at failed
  · split at failed
    · cases failed
    split at failed
    · cases failed
    split at failed
    · cases failed
      rfl
    split at failed
    · cases failed
    · cases failed
      rfl
  · cases failed
    rfl

theorem walk_plain {place : Text × Node} {names : List Text}
    (failed : d.walk place names = .error link) : link.report? = none := by
  induction names generalizing place with
  | nil => cases failed
  | cons name rest ih =>
    rw [walk, List.foldlM_cons] at failed
    cases here : d.step place name with
    | error stuck =>
      rw [here] at failed
      cases failed
      exact step_plain here
    | ok next =>
      rw [here] at failed
      exact ih failed

theorem find_plain {path : Text} (failed : d.find path = .error link) : link.report? = none := by
  unfold find at failed
  split at failed
  · cases failed
    rfl
  split at failed
  · cases failed
    rfl
  · exact walk_plain failed

theorem read_plain {path : Text} {cause : Failure} (failed : d.read path = .error cause) :
    cause.Plain := by
  unfold read openAt at failed
  cases found : d.find path with
  | error link =>
    rw [found] at failed
    cases failed
    have said : (Link.said ("open " ++ path)).report? = none := rfl
    simp [Failure.Plain, Failure.reports, said, find_plain found]
  | ok spot =>
    rw [found] at failed
    obtain ⟨place, node⟩ := spot
    cases node with
    | folder =>
      cases failed
      rfl
    | file contents => cases failed
    | database tables => cases failed

end Disk

/-- That no write to a sink fails with a problem. -/
def Sink.Plain (s : Sink) : Prop :=
  ∀ loss ∈ s.losses, loss.2.Plain

namespace Sink

variable {s : Sink} {cause : Failure}

theorem Plain.write (plain : s.Plain) (t : Text) :
    (s.write t).2.Plain ∧ ∀ cause, (s.write t).1 = some cause → cause.Plain := by
  unfold Sink.write
  dsimp only
  split
  · refine ⟨plain, fun cause failed => ?_⟩
    cases failed
    rfl
  · split
    · next why lost =>
      obtain ⟨before, after, split, -⟩ := List.lookup_eq_some_iff.mp lost
      refine ⟨plain, fun cause failed => ?_⟩
      cases failed
      exact plain (s.writes + 1, why) (by simp [split])
    · exact ⟨plain, by simp⟩

theorem Plain.writeAll (plain : s.Plain) (lines : List Text) :
    (s.writeAll lines).2.Plain ∧ ∀ cause, (s.writeAll lines).1 = some cause → cause.Plain := by
  induction lines generalizing s with
  | nil =>
    refine ⟨plain, fun cause failed => ?_⟩
    cases failed
  | cons t rest ih =>
    obtain ⟨after, refused⟩ := plain.write t
    unfold Sink.writeAll
    split
    · next s' written =>
      rw [written] at after
      exact ih after
    · exact ⟨after, refused⟩

end Sink

/-- A line cannot be read for the reason that reading is called off, or that no more input comes. -/
theorem LineReader.read_plain {halted : Option Failure} {r : LineReader} {feed : Feed}
    (stop : ∀ cause, halted = some cause → cause.Plain) (ending : feed.ending.Plain)
    {cause : Failure} (failed : (r.read halted feed).1.failure = some cause) : cause.Plain := by
  unfold read at failed
  split at failed
  · next why =>
    cases failed
    exact stop _ rfl
  · dsimp only [fetch] at failed
    split at failed
    · cases failed
    · cases failed
      exact ending

theorem LineReader.read_ending {halted : Option Failure} {r : LineReader} {feed : Feed} :
    (r.read halted feed).2.2.ending = feed.ending := by
  unfold read
  split
  · rfl
  · rfl

namespace House

/-- That nothing in a theater names a problem: not why sessions are to stop, nor why a write fails,
    nor why no more input comes. -/
structure Plain (h : House) : Prop where
  halted : ∀ cause, h.halted = some cause → cause.Plain
  losses : ∀ sink, h.theater.outlet = .sink sink → sink.Plain
  ending : match h.theater.answers with
    | .lines _ feed => feed.ending.Plain
    | .standard _ => h.input.ending.Plain
    | .script _ => True

namespace Plain

variable {h : House} (plain : h.Plain)
include plain

theorem ask : h.ask.2.Plain ∧ ∀ cause, h.ask.1 = some cause → cause.Plain := by
  unfold House.ask
  split
  · exact ⟨plain, plain.halted⟩
  · exact ⟨⟨plain.halted, plain.losses, plain.ending⟩, by simp⟩

theorem sink {sink : Sink} (ok : sink.Plain) :
    ({ h with theater := { h.theater with outlet := .sink sink } } : House).Plain :=
  ⟨plain.halted, fun _ same => Outlet.sink.inj same ▸ ok, plain.ending⟩

theorem write (t : Text) : (h.write t).Plain := by
  unfold House.write
  split
  · next sink outlet =>
    split
    · exact plain
    · exact plain.sink ((plain.losses sink outlet).write t).1
  · exact ⟨plain.halted, plain.losses, plain.ending⟩
  · exact plain

theorem display (lines : List Text) (shown : Shown) :
    (h.display lines shown).2.Plain ∧
      ∀ cause, (h.display lines shown).1 = some cause → cause.Plain := by
  unfold House.display
  split
  · next sink outlet =>
    obtain ⟨after, refused⟩ := (plain.losses sink outlet).writeAll lines
    exact ⟨plain.sink after, refused⟩
  · exact ⟨⟨plain.halted, plain.losses, plain.ending⟩, by simp⟩
  · exact ⟨⟨plain.halted, by simp, plain.ending⟩, by simp⟩

theorem readLine : h.readLine.2.Plain ∧ ∀ cause, h.readLine.1.failure = some cause → cause.Plain := by
  obtain ⟨asked, stop⟩ := plain.ask
  unfold House.readLine
  generalize h.ask = answer at asked stop
  obtain ⟨stop?, h⟩ := answer
  have ending := asked.ending
  dsimp only at asked stop ending ⊢
  split
  · next reader feed lines =>
    rw [lines] at ending
    have written := asked.write (reader.read stop? feed).1.prompt
    refine ⟨⟨written.halted, written.losses, ?_⟩, fun cause => LineReader.read_plain stop ending⟩
    change (reader.read stop? feed).2.2.ending.Plain
    rw [LineReader.read_ending]
    exact ending
  · next reader standard =>
    rw [standard] at ending
    have written := asked.write (reader.read stop? h.input).1.prompt
    refine ⟨⟨written.halted, written.losses, ?_⟩, fun cause => LineReader.read_plain stop ending⟩
    change (reader.read stop? h.input).2.2.ending.Plain
    rw [LineReader.read_ending]
    exact ending
  · split
    · next why _ =>
      refine ⟨asked, fun cause failed => ?_⟩
      cases failed
      exact stop _ rfl
    · refine ⟨asked, fun cause failed => ?_⟩
      cases failed
      rfl
    · exact ⟨⟨asked.halted, asked.losses, trivial⟩, by simp⟩

end Plain

end House

/-! ## In plain words -/

/-- A failure that names no problem, or else that the input is over. -/
def Failure.plainly (f : Failure) : Failure :=
  if f.Plain then f else [.endOfInput]

theorem Failure.plainly_eq {f : Failure} (plain : f.Plain) : f.plainly = f :=
  if_pos plain

theorem Failure.plain_plainly (f : Failure) : f.plainly.Plain := by
  unfold plainly
  split
  · assumption
  · rfl

section Plainly

variable {σ : Type}

/-- An answer whose failures name no problem. -/
def plainlyRead {α : Type} (r : Except Failure α × σ) : Except Failure α × σ :=
  (r.1.mapError Failure.plainly, r.2)

def plainlyShown (r : Option Failure × σ) : Option Failure × σ :=
  (r.1.map Failure.plainly, r.2)

theorem plainlyRead_plain {α : Type} {r : Except Failure α × σ} {cause : Failure}
    (failed : (plainlyRead r).1 = .error cause) : cause.Plain := by
  obtain ⟨why | found, w⟩ := r
  · cases failed
    exact why.plain_plainly
  · cases failed

theorem plainlyRead_eq {α : Type} {r : Except Failure α × σ}
    (plain : ∀ cause, r.1 = .error cause → cause.Plain) : plainlyRead r = r := by
  obtain ⟨why | found, w⟩ := r
  · rw [plainlyRead, Except.mapError, Failure.plainly_eq (plain why rfl)]
  · rfl

theorem plainlyShown_plain {r : Option Failure × σ} {cause : Failure}
    (failed : (plainlyShown r).1 = some cause) : cause.Plain := by
  obtain ⟨- | why, w⟩ := r
  · cases failed
  · cases failed
    exact why.plain_plainly

theorem plainlyShown_eq {r : Option Failure × σ}
    (plain : ∀ cause, r.1 = some cause → cause.Plain) : plainlyShown r = r := by
  obtain ⟨- | why, w⟩ := r
  · rfl
  · rw [plainlyShown, Option.map_some, Failure.plainly_eq (plain why rfl)]

/-- The host who does the same and names no problem. -/
def Host.plainly (h : Host σ) : Host σ where
  halted := h.halted
  read path w := plainlyRead (h.read path w)
  tell lines w := plainlyShown (h.tell lines w)
  offer choices w := plainlyShown (h.offer choices w)
  complain message w := plainlyShown (h.complain message w)

theorem Host.plain_plainly (h : Host σ) : h.plainly.Plain where
  read _ _ _ := plainlyRead_plain
  tell _ _ _ := plainlyShown_plain
  offer _ _ _ := plainlyShown_plain
  complain _ _ _ := plainlyShown_plain

/-- The player who gives the same answers and names no problem. -/
def Player.plainly (player : Player σ) : Player σ where
  answers := player.answers.map fun answer n w => plainlyRead (answer n w)
  last n w := ((player.last n w).1.plainly, (player.last n w).2)

theorem Player.plain_plainly (player : Player σ) : player.plainly.Plain where
  answers := by
    intro other member n w cause failed
    obtain ⟨answer, -, rfl⟩ := List.mem_map.mp member
    exact plainlyRead_plain failed
  last n w := (player.last n w).1.plain_plainly

end Plainly

namespace House

/-- That two theaters are the same, and nothing in them names a problem. -/
def Beside (h k : House) : Prop :=
  h = k ∧ h.Plain

theorem paired_self {α : Type} {r s : α × House} (same : s = r) (plain : r.2.Plain) :
    Paired Beside r s := by
  subst same
  exact .intro s.1 ⟨rfl, plain⟩

theorem host_matches (R : List Text) : host.Matches R Beside host.plainly where
  halted := by
    rintro w v ⟨rfl, plain⟩
    exact paired_self rfl plain.ask.1
  read := by
    rintro w v path wanted ⟨rfl, plain⟩
    exact paired_self (plainlyRead_eq fun _ => Disk.read_plain) plain
  tell := by
    rintro w v lines ⟨rfl, plain⟩
    obtain ⟨after, refused⟩ := plain.display (Screen.lines lines) (.lines lines)
    exact paired_self (plainlyShown_eq refused) after
  offer := by
    rintro w v choices ⟨rfl, plain⟩
    obtain ⟨after, refused⟩ := plain.display (Screen.choices choices) (.choices choices)
    exact paired_self (plainlyShown_eq refused) after
  complain := by
    rintro w v message ⟨rfl, plain⟩
    obtain ⟨after, refused⟩ := plain.display (Screen.complaint message) (.complaint message)
    exact paired_self (plainlyShown_eq refused) after

theorem player_matches (h : House) : h.player.Matches Beside h.player.plainly where
  answers := by
    rw [Player.plainly, List.forall₂_map_right_iff, List.forall₂_same]
    rintro answer member n w v ⟨rfl, plain⟩
    obtain rfl := List.eq_of_mem_replicate member
    obtain ⟨after, refused⟩ := plain.readLine
    dsimp only
    generalize w.readLine = read at after refused
    obtain ⟨⟨line, - | cause, prompt⟩, w'⟩ := read
    · exact paired_self rfl after
    · refine paired_self (plainlyRead_eq fun why failed => ?_) after
      cases failed
      exact refused cause rfl
  last := by
    rintro n w v ⟨rfl, plain⟩
    obtain ⟨after, refused⟩ := plain.readLine
    dsimp only [Player.plainly, player]
    generalize w.readLine = read at after refused
    obtain ⟨⟨line, - | cause, prompt⟩, w'⟩ := read
    · exact paired_self rfl after
    · change Paired Beside (cause, w') (cause.plainly, w')
      rw [Failure.plainly_eq (refused cause rfl)]
      exact paired_self rfl after

/-- A session in a theater that names no problem is one with a host and a player in plain words. -/
theorem run_plainly {p : Play House} {h : House} (world : p.world = h) (plain : h.Plain)
    (entry : Address) :
    p.run host (some h.player) entry = p.run host.plainly (some h.player.plainly) entry := by
  subst world
  have abreast : Play.Abreast Beside (fun _ => Eq) p p := .intro ⟨rfl, plain⟩ rfl
  have same := abreast.run Crew.matches_self (host_matches _) (player_matches p.world)
    (List.Subset.refl (p.soughtBy host (.run (some p.world.player) entry)))
  generalize p.run host (some p.world.player) entry = r at same
  generalize p.run host.plainly (some p.world.player.plainly) entry = s at same
  obtain ⟨answer, ⟨⟨rfl, -⟩, rfl⟩⟩ := same
  rfl

end House

/-! ## What the archive tells -/

namespace Archive

open Transcript

variable {m : Memory} {k : Kept}

theorem Keeps.setMetadata (keeps : Keeps m k) {key : Text} (other : key ≠ Tables.versionKey)
    (value : Text) : Keeps (m.setMetadata key value) (setMetadata key value k).2 := by
  have alike : ∀ t, Holds t m →
      Alike t m (none, t.setMetadata key value) (none, m.setMetadata key value) := by
    intro t holds
    exact ⟨rfl, holds.setMetadata other value, nofun⟩
  exact (@Keeps.change m k keeps (fun m => (none, m.setMetadata key value))
    (fun t => (none, t.setMetadata key value)) alike nofun).2.1

theorem Keeps.recordAll {r : Recording Memory} {s : Recording Kept}
    (keeps : Keeps r.keeper s.keeper) (same : s.began = r.began) (id : Text) (es : List Event) :
    Keeps (r.recordAll Memory.recorder id es).2.keeper (s.recordAll recorder id es).2.keeper := by
  induction es generalizing r s with
  | nil => exact keeps
  | cons e rest ih =>
    obtain ⟨began, m⟩ := r
    obtain ⟨still, k⟩ := s
    obtain rfl : still = began := same
    obtain ⟨same, after⟩ := keeps.record still id e
    exact ih after same

/-- An archive on the disk stays where it is. -/
theorem change_filed {place : Text} (filed : k.1.shelf = .filed place)
    (inMem : Memory → Option Failure × Memory) (inTab : Tables → Option Failure × Tables) :
    (change inMem inTab k).2.1 = k.1 := by
  obtain ⟨a, d⟩ := k
  unfold change
  simp only at filed ⊢
  rw [filed]
  dsimp only
  split
  · rfl
  · rfl

theorem record_filed {r : Recording Kept} {place : Text} (filed : r.keeper.1.shelf = .filed place)
    (id : Text) (e : Event) : (r.record recorder id e).2.keeper.1 = r.keeper.1 := by
  obtain ⟨began, k⟩ := r
  cases e with
  | began entry =>
    change (start id entry k).2.1 = k.1
    unfold start
    split
    · rfl
    · exact change_filed filed _ _
  | logged entry => rfl
  | happened moment address detail =>
    cases began with
    | false => rfl
    | true => exact change_filed filed _ _
  | closed outcome =>
    cases began with
    | false => rfl
    | true => exact change_filed filed _ _

theorem recordAll_filed {r : Recording Kept} {place : Text}
    (filed : r.keeper.1.shelf = .filed place) (id : Text) (es : List Event) :
    (r.recordAll recorder id es).2.keeper.1 = r.keeper.1 := by
  induction es generalizing r with
  | nil => rfl
  | cons e rest ih =>
    have here := record_filed filed id e
    rw [Recording.recordAll_cons, ih (by rw [here]; exact filed), here]

end Archive

namespace Transcript

theorem Memory.kept?_recordAll {m : Memory} (id : Text) {es : List Event}
    (later : ∀ e ∈ es, e.begins = false) :
    ((⟨true, m⟩ : Recording Memory).recordAll recorder id es).2.keeper.kept? id =
      (m.kept? id).map (es.foldl absorb) := by
  induction es generalizing m with
  | nil => simp [Recording.recordAll]
  | cons e rest ih =>
    have here := kept?_record m true id id (later e List.mem_cons_self)
    have began := Recording.began_record recorder id ⟨true, m⟩ (later e List.mem_cons_self)
    rw [Recording.recordAll_cons]
    rcases recorded : ((⟨true, m⟩ : Recording Memory).record recorder id e).2 with ⟨still, m'⟩
    rw [recorded] at here began
    subst began
    rw [ih fun other member => later other (List.mem_cons_of_mem e member), here,
      if_pos ⟨rfl, rfl⟩, Option.map_map]
    rfl

theorem absorb_notes (kept : Header × List Entry) (notes : List Note) :
    ((List.map Note.event notes).foldl absorb kept).1 = kept.1 := by
  induction notes generalizing kept with
  | nil => rfl
  | cons n rest ih => exact ih (absorb kept n.event)

/-- What is kept of a session under a free name, when it is over. -/
theorem Memory.kept?_ended {m : Memory} {id : Text} (free : m.kept? id = none) (entry : Text)
    (notes : List Note) (s : Session) (f : Failure) :
    ∃ entries, ((⟨false, m⟩ : Recording Memory).recordAll recorder id
        (.began entry :: (List.map Note.event notes ++ s.farewell f))).2.keeper.kept? id =
      some ({ id, entry, ended := true, outcome := f.code.text }, entries) := by
  have later : ∀ e ∈ List.map Note.event notes ++ s.farewell f, e.begins = false := by
    simp [Session.farewell, Note.event, Event.begins, or_imp, forall_and]
  have begun : ((⟨false, m⟩ : Recording Memory).record recorder id (.began entry)).2 =
      ⟨true, (m.start id entry).2⟩ := by
    simp [Recording.record, recorder, start, knows_eq_isSome, free]
  rw [Recording.recordAll_cons, begun, kept?_recordAll id later, kept?_start free, if_pos rfl,
    Option.map_some, List.foldl_append]
  simp [Session.farewell, absorb, absorb_notes]

end Transcript

namespace House

open Transcript

variable {h : House} {a : Archive} {m : Memory}

/-- That a theater keeps transcripts in an archive on the disk. -/
structure Files (h : House) (a : Archive) (m : Memory) : Prop where
  archive : h.theater.archive = some a
  filed : ∃ place, a.shelf = .filed place
  keeps : Archive.Keeps m (a, h.disk)

theorem Files.noteMetadata (files : h.Files a m) (key value : Text)
    (other : key ≠ Tables.versionKey) :
    (h.noteMetadata key value).2.Files a (m.setMetadata key value) := by
  obtain ⟨archive, ⟨place, filed⟩, keeps⟩ := files
  have same : (Archive.setMetadata key value (a, h.disk)).2.1 = a :=
    Archive.change_filed (k := (a, h.disk)) filed _ _
  have kept : (a, (Archive.setMetadata key value (a, h.disk)).2.2) =
      (Archive.setMetadata key value (a, h.disk)).2 := Prod.ext same.symm rfl
  unfold House.noteMetadata
  rw [archive]
  refine ⟨congrArg some same, ⟨place, filed⟩, ?_⟩
  exact kept ▸ keeps.setMetadata other value

theorem Files.record (files : h.Files a m) (id : Text) (events : List Event) {k : House}
    (kept : Archive.Kept)
    (recorded : kept = ((⟨false, (a, h.disk)⟩ : Recording Archive.Kept).recordAll Archive.recorder id
      events).2.keeper) :
    { k with disk := kept.2, theater := { k.theater with archive := some kept.1 } }.Files a
      ((⟨false, m⟩ : Recording Memory).recordAll Memory.recorder id events).2.keeper := by
  obtain ⟨-, ⟨place, filed⟩, keeps⟩ := files
  have same : kept.1 = a := by
    rw [recorded]
    exact Archive.recordAll_filed (r := ⟨false, (a, h.disk)⟩) filed id events
  have still : (a, kept.2) = kept := Prod.ext same.symm rfl
  refine ⟨congrArg some same, ⟨place, filed⟩, ?_⟩
  change Archive.Keeps _ (a, kept.2)
  rw [still, recorded]
  exact Archive.Keeps.recordAll (r := ⟨false, m⟩) (s := ⟨false, (a, h.disk)⟩) keeps rfl id events

theorem plain_noteMetadata (plain : h.Plain) (key value : Text) :
    (h.noteMetadata key value).2.Plain := by
  unfold House.noteMetadata
  split
  · exact plain
  · exact ⟨plain.halted, plain.losses, plain.ending⟩

/-- A session as it is performed, without anything that is written down of it. -/
def performance (id : Text) (entry : Address) (h : House) : Option Failure × Play House :=
  h.perform inferInstance [] id entry

/-- Whoever writes a session down, the performance is the same. -/
theorem perform_eq {τ : Type} (crew : Crew τ) {tape : Text → List Event → τ}
    (crews : Crew.Matches fun id es u => u = tape id es) (id : Text) (entry : Address) (h : House) :
    h.perform crew (tape id []) id entry = ((h.performance id entry).1,
      (h.performance id entry).2.onTape (tape id (h.performance id entry).2.events)) := by
  let start : Play House :=
    ⟨{ id, maxRetries := h.theater.maxRetries, inventory := .ofItems h.theater.inventory },
      { directory := h.disk.directory }, h, []⟩
  have named : (start.run host (some h.player) entry).2.session.id = id :=
    Play.Leads.id_eq (.single (.perform host start (.run (some h.player) entry)))
  have same := start.run_onTape crew crews host h.player entry
  rw [named] at same
  exact same

/-- What comes of playing a session: the answer is that of its performance, and an archive has kept
    the events of it. -/
theorem play_eq (able : h.theater.failure = none) (id : Text) (entry : Address) :
    let noted := (h.noteMetadata lastEntryKey entry.text).2
    let final := noted.performance id entry
    (h.play id entry).1 = final.1 ∧
      ∀ a, noted.theater.archive = some a →
        let kept := ((⟨false, (a, noted.disk)⟩ : Recording Archive.Kept).recordAll Archive.recorder
          id final.2.events).2.keeper
        (h.play id entry).2.2 = { final.2.world with
          disk := kept.2, theater := { final.2.world.theater with archive := some kept.1 } } := by
  intro noted final
  unfold House.play
  rw [able]
  dsimp only
  cases archive : noted.theater.archive with
  | none =>
    have silent := perform_eq unrecorded (unrecorded_matches { keeper := () }) id entry noted
    exact ⟨congrArg Prod.fst silent, by simp⟩
  | some a =>
    have recorded := perform_eq Archive.recorder.crew
      (Archive.recorder.crew_matches { keeper := (a, noted.disk) }) id entry noted
    rw [Tape.recordAll_nil] at recorded
    dsimp only
    rw [recorded]
    refine ⟨rfl, fun a' same => ?_⟩
    cases same
    rfl

/-- A theater that can play and names no problem plays a session to its end. If it keeps transcripts
    under another name only, the transcript of this one tells the code of the ending. -/
theorem play_classified (able : h.theater.failure = none) (plain : h.Plain) (id : Text)
    (entry : Address) :
    ∃ f, (h.play id entry).1 = some f ∧ f.Classified ∧
      ∀ {a m}, h.Files a m → m.kept? id = none → ∃ m' entries, (h.play id entry).2.2.Files a m' ∧
        m'.kept? id = some (⟨id, entry.text, true, f.code.text⟩, entries) := by
  obtain ⟨same, filed⟩ := play_eq able id entry
  let noted := (h.noteMetadata lastEntryKey entry.text).2
  let start : Play House :=
    ⟨{ id, maxRetries := noted.theater.maxRetries, inventory := .ofItems noted.theater.inventory },
      { directory := noted.disk.directory }, noted, []⟩
  let final := noted.performance id entry
  obtain ⟨ended, answer⟩ : Play.Over final := Play.over_run rfl host noted.player entry
  have classified : final.2.Classified := by
    rw [show final = _ from run_plainly (p := start) rfl (plain_noteMetadata plain _ _) entry]
    exact (Play.classified_fresh id _ _ noted (Loader.readFrom_empty _ _)).run host.plain_plainly
      noted.player.plain_plainly entry
  have leads : start.Leads final.2 := .single (.perform host start (.run (some noted.player) entry))
  obtain ⟨f, ending, story⟩ := leads.story_ended ended
  refine ⟨f, same.trans (answer.trans ending), classified.ending f ending, fun {a m} files free => ?_⟩
  have began : .began entry.text ∈ final.2.story :=
    List.mem_filter.mpr ⟨Play.began_run rfl host noted.player entry, rfl⟩
  rcases story with story | ⟨first, notes, story⟩
  · rw [story] at began
    simp [Session.farewell] at began
  · obtain rfl : entry.text = first := by
      rw [story] at began
      simpa [Session.farewell, Note.event] using began
    have files := files.noteMetadata lastEntryKey entry.text (by decide)
    have recorded := files.record id final.2.events (k := final.2.world) _ rfl
    rw [← filed a files.archive] at recorded
    obtain ⟨entries, kept⟩ := Memory.kept?_ended (m := m.setMetadata lastEntryKey entry.text) free
      entry.text notes final.2.session f
    rw [← story, Play.story, Recording.recordAll_told] at kept
    exact ⟨_, entries, recorded, kept⟩

end House

end Gamebook
