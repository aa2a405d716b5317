import Gamebook.Proofs.Loader.Addresses
import Gamebook.Proofs.Script.Names
import Gamebook.Proofs.Session.Company

/-! # Transcripts tell scenes apart

For every scene that a session enters, transcripts are told an address. `Play.Visits` says which
scenes these are: each time that a move has left such an event behind, the one that is current then.
The loader finds each of them at its address, in a file by its canonical path, and the names in the
address are those of a script, so they hold no colon. It follows that two events of entering a
scene, in one session or in two, give the same address exactly if they are about the same scene of
the same file.
-/

namespace Gamebook

/-! ## Addresses of scenes that a loader finds -/

/-- The names by which a scene is found stand in the script. -/
theorem Script.mem_names_of_find {s : Script} {module scene : Text} {found : Found}
    (ok : s.find module scene = .ok found) : module ∈ s.names ∧ scene ∈ s.names := by
  obtain ⟨-, inScript, inModule⟩ := find_eq_ok_iff.mp ok
  have moduleNamed : found.module.name = module := by simpa using List.find?_some inScript
  have sceneNamed : found.scene.name = scene := by simpa using List.find?_some inModule
  have among {name : Text} (inside : name ∈ found.module.names) : name ∈ s.names :=
    List.mem_flatMap.mpr ⟨found.module, List.mem_of_find?_eq_some inScript, inside⟩
  refine ⟨among (by simp [Module.names, moduleNamed]), among (List.mem_cons_of_mem _ ?_)⟩
  exact List.mem_flatMap.mpr
    ⟨found.scene, List.mem_of_find?_eq_some inModule, by simp [Scene.names, sceneNamed]⟩

namespace Loader

variable {l after : Loader} {found : Found}

/-- That a loader starts from an absolute directory and keeps files by canonical paths. -/
structure Rooted (l : Loader) : Prop where
  directory : Path.isAbsolute l.directory = true
  kept : l.ReadFrom fun path _ => Path.IsCanonical path

namespace Rooted

variable {σ : Type}

theorem load (rooted : l.Rooted) (read : ReadFile σ) (path : Text) (w : σ) :
    (l.load read path w).loader.Rooted where
  directory := by
    rw [(load_extends read l path w).1]
    exact rooted.directory
  kept := rooted.kept.load_canonical read path w fun _ _ canonical _ =>
    Path.isCanonical_of_canonical rooted.directory canonical

theorem follow (rooted : l.Rooted) (read : ReadFile σ) (origin : Address) (target : Target)
    (w : σ) : (l.follow read origin target w).loader.Rooted := by
  cases target with
  | sameFile module scene => exact rooted
  | otherFile path module scene => exact rooted.load read _ w

/-- A scene that was found can be looked up by an address that is canonical and plain. -/
theorem of_lookup (rooted : l.Rooted) (ok : l.lookup found.address = .ok found) :
    Path.canonical l.directory found.address.file = .ok found.address.file ∧
      found.address.Plain := by
  obtain ⟨loaded, here, -, declared⟩ := lookup_eq_ok_iff.mp ok
  obtain ⟨text, isCanonical, rfl⟩ := rooted.kept.of_lookup here
  have plain : ∀ name ∈ (Loaded.ofText found.address.file text).script.names, Text.colon ∉ name :=
    fun name member => (Script.isName_of_parse _ name member).colon_notMem
  obtain ⟨module, scene⟩ := Script.mem_names_of_find declared
  exact ⟨isCanonical.canonical_eq l.directory, plain _ module, plain _ scene⟩

end Rooted

theorem follow_lookup {σ : Type} {read : ReadFile σ} {w : σ} {origin : Address} {target : Target}
    {texts : Text → Text → Prop}
    (kept : (l.follow read origin target w).loader.ReadFrom texts)
    (ok : (l.follow read origin target w).result = .ok found) :
    (l.follow read origin target w).loader.lookup found.address = .ok found :=
  ask_lookup (q := .follow origin target) kept (congrArg (Except.map Reply.scene) ok)

end Loader

/-! ## Events of entering a scene -/

namespace Event

/-- The address that is told when a scene is entered. -/
def entered? : Event → Option Text
  | .happened .enter address _ => some address
  | _ => none

/-- The addresses that events tell of scenes being entered. -/
def enterings (es : List Event) : List Text :=
  es.filterMap entered?

theorem enterings_told (es : List Event) : enterings (es.filter isTold) = enterings es := by
  rw [enterings, List.filterMap_filter]
  refine List.filterMap_congr fun e _ => ?_
  cases e with
  | logged entry => rfl
  | began | happened | closed => simp [isTold]

end Event

namespace View

variable {σ : Type} {h : Host σ} {v : View} {r : Option Failure × View} {visits : List Found}

theorem enterings_finish (v : View) (f : Failure) :
    Event.enterings (v.finish f).2.story = Event.enterings v.story := by
  simp [View.finish, View.tell, Session.farewell, Event.enterings, Event.entered?]

theorem enterings_arrive (v : View) (found : Found) :
    Event.enterings (v.arrive found).story = Event.enterings v.story ++ [found.address.text] := by
  simp [View.arrive, View.tell, Found.arrival, Event.enterings, Event.entered?]

/-- That no scene is told to be entered, or the one that is current from then on. -/
def Enters (v after : View) (found : Found) : Prop :=
  Event.enterings after.story = Event.enterings v.story ∨
    Event.enterings after.story = Event.enterings v.story ++ [found.address.text] ∧
      after.session.current = some found

theorem Entering.enters {found : Found} (entering : v.Entering h found r) :
    v.Enters r.2 found ∧ r.2.loader = v.loader := by
  have arrived (f : Failure) : v.Enters ((v.arrive found).finish f).2 found :=
    .inr ⟨(enterings_finish ..).trans (enterings_arrive v found), rfl⟩
  cases entering with
  | halted asked => exact ⟨.inl (enterings_finish ..), rfl⟩
  | awaiting something whole => exact ⟨.inr ⟨enterings_arrive v found, rfl⟩, rfl⟩
  | _ => exact ⟨arrived _, rfl⟩

/-- The scene that was entered on the way from one view to another: the one that is current then, if
    there is a further event of entering a scene. -/
def visited (v after : View) : List Found :=
  if (Event.enterings v.story).length < (Event.enterings after.story).length then
    after.session.current.toList
  else []

/-- That transcripts were told the addresses of scenes, and that the loader finds them there. -/
structure Toured (v : View) (visits : List Found) : Prop where
  rooted : v.loader.Rooted
  told : Event.enterings v.story = visits.map (·.address.text)
  found : ∀ found ∈ visits, v.loader.lookup found.address = .ok found

namespace Toured

variable {after : View} {found : Found}

/-- What was found stays where it is. -/
theorem mono (toured : v.Toured visits) {l : Loader} (more : v.loader.Extends l) :
    ∀ found ∈ visits, l.lookup found.address = .ok found :=
  fun found member => Loader.lookup_mono more (toured.found found member)

theorem stayed (toured : v.Toured visits)
    (same : Event.enterings after.story = Event.enterings v.story)
    (more : v.loader.Extends after.loader) (rooted : after.loader.Rooted) :
    after.Toured (visits ++ v.visited after) := by
  have nowhere : v.visited after = [] := by simp [visited, same]
  rw [nowhere, List.append_nil]
  exact ⟨rooted, same.trans toured.told, toured.mono more⟩

theorem entered (toured : v.Toured visits) (enters : v.Enters after found)
    (more : v.loader.Extends after.loader) (rooted : after.loader.Rooted)
    (here : after.loader.lookup found.address = .ok found) :
    after.Toured (visits ++ v.visited after) := by
  rcases enters with same | ⟨told, current⟩
  · exact toured.stayed same more rooted
  · have there : v.visited after = [found] := by simp [visited, told, current]
    rw [there]
    exact ⟨rooted, by simp [told, toured.told],
      List.forall_mem_append.mpr ⟨toured.mono more, by simpa using here⟩⟩

end Toured

theorem Starting.toured {entry : Address} {w : σ} (toured : v.Toured visits)
    (starting : v.Starting h entry w r) : r.2.Toured (visits ++ v.visited r.2) := by
  have silent : Event.enterings (v.tell [.began entry.text]).story = Event.enterings v.story := by
    simp [View.tell, Event.enterings, Event.entered?]
  have more := Loader.load_extends h.read v.loader entry.file (h.halted w).2
  have rooted : (v.loader.resolve h.read entry (h.halted w).2).loader.Rooted :=
    toured.rooted.load h.read entry.file _
  cases starting with
  | halted asked =>
    exact toured.stayed ((enterings_finish ..).trans silent) (.refl _) toured.rooted
  | unresolved loader failed =>
    subst loader
    exact toured.stayed ((enterings_finish ..).trans silent) more rooted
  | @entering found l r loader ok rest =>
    subst loader
    obtain ⟨enters, same⟩ := rest.enters
    have here := Loader.resolve_lookup rooted.kept ok
    rw [Enters, silent] at enters
    exact toured.entered enters (same ▸ more) (same ▸ rooted) (same ▸ here)

theorem Choosing.toured {input : Text} {w : σ} (toured : v.Toured visits)
    (choosing : v.Choosing h input w r) : r.2.Toured (visits ++ v.visited r.2) := by
  have chosen (n : Nat) (offer : Offer) :
      Event.enterings (v.choice n offer).story = Event.enterings v.story := by
    simp [View.choice, View.tell, Event.enterings, Event.entered?]
  have mistaken : Event.enterings (v.mistake input).story = Event.enterings v.story := by
    simp [View.mistake, View.tell, Event.enterings, Event.entered?]
  have rooted (offer : Offer) :=
    toured.rooted.follow h.read v.session.position offer.branch.target (h.halted w).2
  cases choosing with
  | halted asked => exact toured.stayed (enterings_finish ..) (.refl _) toured.rooted
  | @unresolved n offer f l picked loader failed =>
    subst loader
    exact toured.stayed ((enterings_finish ..).trans (chosen n offer)) Loader.follow_extends
      (rooted offer)
  | @entering n offer found l r picked loader ok rest =>
    subst loader
    obtain ⟨enters, same⟩ := rest.enters
    have here := Loader.follow_lookup (rooted offer).kept ok
    rw [Enters, chosen] at enters
    exact toured.entered enters (same ▸ Loader.follow_extends) (same ▸ rooted offer) (same ▸ here)
  | unshown unpicked refused | exhausted unpicked many =>
    exact toured.stayed ((enterings_finish ..).trans mistaken) (.refl _) toured.rooted
  | rejected unpicked few => exact toured.stayed mistaken (.refl _) toured.rooted

end View

/-! ## Along a session -/

namespace Play

variable {σ : Type} {p : Play σ} {visits : List Found}

/-- The plays that moves and endings lead to, with the scenes that were entered on the way. In
    between others may use the loader and change the world. -/
inductive Visits : Play σ → List Found → Prop where
  | fresh (id : Text) (maxRetries : Int) (items : List Text) {l : Loader} (rooted : l.Rooted)
      (w : σ) : Visits ⟨{ id, maxRetries, inventory := .ofItems items }, l, w, []⟩ []
  | make {p : Play σ} {visits : List Found} (before : Visits p visits) (h : Host σ) (m : Move) :
    Visits (p.make h m).2 (visits ++ p.view.visited (p.make h m).2.view)
  | finish {p : Play σ} {visits : List Found} (before : Visits p visits) (f : Failure)
      (ongoing : p.session.stage ≠ .ended) : Visits (p.finish f).2 visits
  | meanwhile {p : Play σ} {visits : List Found} (before : Visits p visits) {l : Loader}
      (more : p.loader.Extends l) (rooted : l.Rooted) (w : σ) :
    Visits { p with loader := l, world := w } visits

theorem make_toured (toured : p.view.Toured visits) (h : Host σ) (m : Move) :
    (p.make h m).2.view.Toured (visits ++ p.view.visited (p.make h m).2.view) := by
  by_cases expected : p.session.Expects m
  · cases m with
    | start entry => exact (start_starting h entry expected).toured toured
    | choose input => exact (choose_choosing h input expected).toured toured
  · obtain ⟨f, same, -⟩ := make_of_not_expects h expected
    rw [same]
    exact toured.stayed rfl (.refl _) toured.rooted

theorem Visits.toured (visited : p.Visits visits) : p.view.Toured visits := by
  induction visited with
  | fresh id maxRetries items rooted w => exact ⟨rooted, rfl, by simp⟩
  | make before h m ih => exact make_toured ih h m
  | @finish p visits before f ongoing ih =>
    have ended : (p.finish f).2.view = (p.view.finish f).2 := congrArg Prod.snd (seen_finish p f)
    rw [ended]
    exact ⟨ih.rooted, (View.enterings_finish ..).trans ih.told, ih.found⟩
  | meanwhile before more rooted w ih => exact ⟨rooted, ih.told, ih.mono more⟩

theorem Visits.accounted (visited : p.Visits visits) : ∃ items, p.view.Accounted items := by
  induction visited with
  | fresh id maxRetries items rooted w =>
    exact ⟨_, Leads.accounted rfl
      ⟨rfl, Inventory.keyed_ofItems items, Inventory.folded_ofItems items⟩ .refl⟩
  | make before h m ih => exact ih.imp fun _ => kept_accounted.make h m
  | finish before f ongoing ih => exact ih.imp fun _ => kept_accounted.finish f ongoing
  | meanwhile before more rooted w ih => exact ih

/-- Whatever call follows, the scenes that were entered in it come after the others. -/
theorem Visits.perform (visited : p.Visits visits) (h : Host σ) (d : Deed σ) :
    ∃ more, (p.perform h d).2.Visits (visits ++ more) := by
  have kept : Kept fun p : Play σ => ∃ more, p.Visits (visits ++ more) :=
    { make := by
        rintro p h m ⟨more, visited⟩
        exact ⟨_, List.append_assoc visits _ _ ▸ visited.make h m⟩
      finish := by
        rintro p f ongoing ⟨more, visited⟩
        exact ⟨more, visited.finish f ongoing⟩
      world := by
        rintro p w ⟨more, visited⟩
        exact ⟨more, visited.meanwhile (.refl _) visited.toured.rooted w⟩ }
  exact kept.perform h d ⟨[], by rwa [List.append_nil]⟩

end Play

/-! ## In transcripts -/

namespace Transcript

/-- The address in an entry of kind "enter" that a recorder is asked to add. -/
def Call.entered? : Call → Option Text
  | .append _ kind address _ => if kind = Moment.enter.text then some address else none
  | .start .. | .close .. => none

theorem Call.entered?_ofEvent? (id : Text) (e : Event) :
    (ofEvent? id e).bind entered? = e.entered? := by
  have others : ∀ m ∈ [Moment.inventory, .choice, .invalidChoice, .ending],
      m.text ≠ Moment.enter.text := by decide
  cases e with
  | happened moment address detail =>
    cases moment with
    | enter => simp [ofEvent?, entered?, Event.entered?]
    | _ => simp [ofEvent?, entered?, Event.entered?, others]
  | began | closed | logged => rfl

/-- A recorder is asked for an entry of kind "enter" for each event of entering a scene, or for none
    because the start of the session was not kept. -/
theorem Recorder.enterings_calls {ρ : Type} (recorder : Recorder ρ) (id : Text) (keeper : ρ)
    {es : List Event} (once : ∀ e ∈ (es.filter Event.isTold).tail, e.begins = false) :
    let calls := recorder.calls id keeper es
    calls.filterMap Call.entered? = Event.enterings es ∨
      (∀ entry, .start id entry true ∉ calls) ∧ calls.filterMap Call.entered? = [] := by
  intro calls
  have told : calls = recorder.calls id keeper (es.filter Event.isTold) :=
    (Recording.calls_told recorder id keeper).symm
  rw [told, ← Event.enterings_told]
  generalize es.filter Event.isTold = story at once
  have silent (later : ∀ e ∈ story, e.begins = false) : recorder.calls id keeper story = [] :=
    Recording.calls_eq_nil recorder id keeper later
  cases story with
  | nil => exact .inr (by simp [silent])
  | cons e rest =>
    rw [List.tail_cons] at once
    cases e with
    | began entry =>
      rw [Recording.calls_began recorder id keeper once]
      split
      · refine .inl ?_
        rw [List.filterMap_cons_none rfl, List.filterMap_filterMap]
        exact List.filterMap_congr fun e _ => Call.entered?_ofEvent? id e
      · exact .inr (by simp [Call.entered?])
    | happened | closed | logged =>
      exact .inr (by simp [silent (List.forall_mem_cons.mpr ⟨rfl, once⟩)])

end Transcript

/-- What transcripts are told of the scenes that were entered in a play. -/
structure Play.TellsOf {σ : Type} (p : Play σ) (visits : List Found) : Prop where
  /-- There is an event for each of them, in order, with its address. -/
  told : Event.enterings p.events = visits.map (·.address.text)
  /-- A recorder is asked for just these entries of kind "enter", unless it did not keep the
      start. -/
  recorded : ∀ {ρ : Type} (recorder : Transcript.Recorder ρ) (id : Text) (keeper : ρ),
    let calls := recorder.calls id keeper p.events
    calls.filterMap Transcript.Call.entered? = Event.enterings p.events ∨
      (∀ entry, .start id entry true ∉ calls) ∧ calls.filterMap Transcript.Call.entered? = []
  /-- The loader finds each scene at its address. -/
  found : ∀ found ∈ visits, p.loader.lookup found.address = .ok found
  canonical : ∀ found ∈ visits,
    Path.canonical p.loader.directory found.address.file = .ok found.address.file

theorem Play.Visits.tellsOf {σ : Type} {p : Play σ} {visits : List Found}
    (visited : p.Visits visits) : p.TellsOf visits where
  told := (Event.enterings_told p.events).symm.trans visited.toured.told
  recorded recorder id keeper := by
    obtain ⟨items, accounted⟩ := visited.accounted
    exact recorder.enterings_calls id keeper accounted.begins
  found := visited.toured.found
  canonical found member :=
    (visited.toured.rooted.of_lookup (visited.toured.found found member)).1

/-- Addresses with plain names have the same text only if they are the same, by whatever bytes the
    files are named, and every name that is read in a source is plain. For each scene that a session
    enters, transcripts are told its address, in a file by its canonical path. So two such events,
    of one session or of two, give the same address exactly if they are about the same scene of the
    same file. -/
theorem transcript_addresses_identify_scenes :
    (∀ a b : Address, a.Plain → b.Plain → a.text = b.text → a = b) ∧
    (∀ s : Source, ∀ name ∈ (Script.parse s).1.names, Text.colon ∉ name) ∧
    (∀ {σ : Type} {p : Play σ} {visits : List Found}, p.Visits visits →
      p.TellsOf visits ∧
        ∀ (h : Host σ) (d : Deed σ), ∃ more, (p.perform h d).2.Visits (visits ++ more)) ∧
    ∀ {σ τ : Type} {p : Play σ} {q : Play τ} {visits others : List Found}, p.Visits visits →
      q.Visits others → ∀ (i j : Nat) (found other : Found), visits[i]? = some found →
        others[j]? = some other →
        ((Event.enterings p.events)[i]? = (Event.enterings q.events)[j]? ↔
          found.address = other.address) := by
  refine ⟨fun a b plain plainToo => (plain.text_eq_iff plainToo).mp,
    fun s name member => (Script.isName_of_parse s name member).colon_notMem,
    fun visited => ⟨visited.tellsOf, visited.perform⟩, ?_⟩
  intro σ τ p q visits others visited visitedToo i j found other first second
  have plain := (visited.toured.rooted.of_lookup
    (visited.toured.found found (List.mem_of_getElem? first))).2
  have plainToo := (visitedToo.toured.rooted.of_lookup
    (visitedToo.toured.found other (List.mem_of_getElem? second))).2
  rw [visited.tellsOf.told, visitedToo.tellsOf.told, List.getElem?_map, List.getElem?_map, first,
    second, Option.map_some, Option.map_some, Option.some_inj]
  exact plain.text_eq_iff plainToo

/-- A file named by a byte that is no character is told apart from one named by its escape. Two
    sessions enter one scene by different paths, and one of them goes on to another scene. -/
theorem transcript_addresses_identify_scenes_vault :
    let h := Story.vault.host
    let start (path : Text) : Play Unit := (Play.make h
      ⟨{ id := "v", inventory := .ofItems [] }, { directory := "/" }, (), []⟩
      (.start ⟨path, "m", "s"⟩)).2
    let p := ((start "a").make h (.choose "1")).2
    let q := start "b/..//a"
    Address.text ⟨[0xFF], "m", "s"⟩ ≠ Address.text ⟨"\\xff", "m", "s"⟩ ∧
      ∃ entered entered' left,
        p.Visits [entered, left] ∧ q.Visits [entered'] ∧ p.TellsOf [entered, left] ∧
        entered.address = ⟨"/a", "m", "s"⟩ ∧ entered'.address = ⟨"/a", "m", "s"⟩ ∧
        left.address = ⟨"/a", "m", "t"⟩ ∧
        (Event.enterings p.events)[0]? = (Event.enterings q.events)[0]? ∧
        (Event.enterings p.events)[1]? ≠ (Event.enterings q.events)[0]? := by
  intro h start p q
  obtain ⟨apart, -, tells, alike⟩ := transcript_addresses_identify_scenes
  have rooted : Loader.Rooted { directory := "/" } := ⟨by decide, Loader.readFrom_empty _ "/"⟩
  have fresh : Play.Visits
      ⟨{ id := "v", inventory := .ofItems [] }, { directory := "/" }, (), []⟩ [] :=
    .fresh "v" 0 [] rooted ()
  obtain ⟨visits, visited, addresses⟩ : ∃ visits, p.Visits visits ∧
      visits.map (·.address) = [⟨"/a", "m", "s"⟩, ⟨"/a", "m", "t"⟩] :=
    ⟨_, (fresh.make h _).make h _, by decide +kernel⟩
  obtain ⟨others, visitedToo, addressesToo⟩ : ∃ others, q.Visits others ∧
      others.map (·.address) = [⟨"/a", "m", "s"⟩] :=
    ⟨_, fresh.make h _, by decide +kernel⟩
  simp only [List.map_eq_cons_iff, List.map_eq_nil_iff] at addresses addressesToo
  obtain ⟨entered, _, rfl, first, left, _, rfl, second, rfl⟩ := addresses
  obtain ⟨entered', _, rfl, firstToo, rfl⟩ := addressesToo
  have same := alike visited visitedToo 0 0 entered entered' rfl rfl
  have other := alike visited visitedToo 1 0 left entered' rfl rfl
  have files : Address.text ⟨[0xFF], "m", "s"⟩ ≠ Address.text ⟨"\\xff", "m", "s"⟩ := by
    intro texts
    have addresses := apart _ _ ⟨by decide, by decide⟩ ⟨by decide, by decide⟩ texts
    exact absurd addresses (by decide)
  refine ⟨files, entered, entered', left, visited, visitedToo, (tells visited).1, first, firstToo,
    second, same.mpr (first.trans firstToo.symm), fun texts => ?_⟩
  have wrong := second.symm.trans ((other.mp texts).trans firstToo)
  exact absurd wrong (by decide)

end Gamebook
