import Gamebook.Proofs.Loader
import Gamebook.Proofs.Text.Order
import Mathlib.Logic.Relation

/-! # A loader reads each file once

A loader is asked for files and scenes while the files change. `Desk` is a loader at work, with a
record of all that was read and of what each reading gave. What a request can do to it is said once
(`Desk.Reading`): nothing, a reading that fails, or a first reading that is kept. So what is kept
for a file is what its text held when it was read, and stays.
-/

namespace Gamebook

/-- Files that were read, with what reading them gave. -/
abbrev Readings := List (Text × Except Failure Text)

/-- Reading with a record of what is read. -/
def ReadFile.noting {σ : Type} (read : ReadFile σ) : ReadFile (σ × Readings) := fun path w =>
  let (result, after) := read path w.1
  (result, after, w.2 ++ [(path, result)])

/-- What a loader is asked. -/
inductive Request where
  | load (path : Text)
  | diagnostics (path : Text)
  | resolve (a : Address)
  | lookup (a : Address)
  | follow (origin : Address) (target : Target)
  deriving DecidableEq, Repr

/-- What a loader answers. A file that cannot be played is given with why it cannot. -/
inductive Reply where
  | file (script : Script) (failure : Option Failure)
  | findings (diagnostics : List Diagnostic)
  | scene (found : Found)
  deriving DecidableEq, Repr

/-- Whether a request concerns only files that have been read. -/
def Request.isLocal : Request → Bool
  | .lookup _ | .follow _ (.sameFile ..) => true
  | _ => false

namespace Loader

variable {σ : Type}

def ask (read : ReadFile σ) (l : Loader) (w : σ) : Request → Fetched σ Reply
  | .load path =>
    let f := l.load read path w
    { f with result := f.result.map fun loaded => .file loaded.script loaded.failure }
  | .diagnostics path =>
    let f := l.load read path w
    { f with result := f.result.map fun loaded => .findings loaded.diagnostics }
  | .resolve a =>
    let f := l.resolve read a w
    { f with result := f.result.map .scene }
  | .lookup a => { result := (l.lookup a).map .scene, loader := l, world := w }
  | .follow origin target =>
    let f := l.follow read origin target w
    { f with result := f.result.map .scene }

end Loader

/-- A loader at work. -/
structure Desk (σ : Type) where
  loader : Loader
  world : σ
  readings : Readings := []

namespace Desk

variable {σ : Type} {read : ReadFile σ} {d e : Desk σ}

def ask (read : ReadFile σ) (d : Desk σ) (q : Request) : Except Failure Reply × Desk σ :=
  let f := d.loader.ask read.noting (d.world, d.readings) q
  (f.result, ⟨f.loader, f.world.1, f.world.2⟩)

/-- What can happen to a loader: requests, and changes of the world in between. -/
inductive Step (read : ReadFile σ) : Desk σ → Desk σ → Prop where
  | ask (d : Desk σ) (q : Request) : Step read d (d.ask read q).2
  | meanwhile (d : Desk σ) (w : σ) : Step read d { d with world := w }

abbrev Leads (read : ReadFile σ) : Desk σ → Desk σ → Prop :=
  Relation.ReflTransGen (Step read)

/-- What a request can do. -/
inductive Reading (d : Desk σ) : Desk σ → Prop where
  | nothing : Reading d d
  | failed {path : Text} {cause : Failure} (w : σ)
      (canonical : ∃ spelled, Path.canonical d.loader.directory spelled = .ok path)
      (absent : d.loader.cache.lookup path = none) :
    Reading d ⟨d.loader, w, d.readings ++ [(path, .error cause)]⟩
  | kept {path text : Text} (w : σ)
      (canonical : ∃ spelled, Path.canonical d.loader.directory spelled = .ok path)
      (absent : d.loader.cache.lookup path = none) :
    Reading d ⟨d.loader.keep path (.ofText path text), w, d.readings ++ [(path, .ok text)]⟩

theorem load_reading (path : Text) :
    d.Reading ⟨(d.loader.load read.noting path (d.world, d.readings)).loader,
      (d.loader.load read.noting path (d.world, d.readings)).world.1,
      (d.loader.load read.noting path (d.world, d.readings)).world.2⟩ := by
  unfold Loader.load
  split
  · exact .nothing
  · next key canonical =>
    split
    · exact .nothing
    · next absent =>
      rcases given : read key d.world with ⟨cause | text, after⟩
      · simp only [ReadFile.noting, given]
        exact .failed after ⟨path, canonical⟩ absent
      · simp only [ReadFile.noting, given]
        exact .kept after ⟨path, canonical⟩ absent

theorem ask_reading (read : ReadFile σ) (d : Desk σ) (q : Request) :
    d.Reading (d.ask read q).2 := by
  cases q with
  | load path => exact load_reading path
  | diagnostics path => exact load_reading path
  | resolve a => exact load_reading a.file
  | lookup a => exact .nothing
  | follow origin target =>
    cases target with
    | sameFile module scene => exact .nothing
    | otherFile path module scene => exact load_reading _

/-- What holds of a loader that started empty. -/
structure Snapshot (d : Desk σ) : Prop where
  /-- A file that was read is not read again. -/
  once : ∀ before after path text,
    d.readings = before ++ (path, .ok text) :: after → ∀ later ∈ after, later.1 ≠ path
  canonical : ∀ reading ∈ d.readings,
    ∃ spelled, Path.canonical d.loader.directory spelled = .ok reading.1
  entries : ∀ path loaded, d.loader.cache.lookup path = some loaded ↔
    ∃ text, (path, .ok text) ∈ d.readings ∧ loaded = .ofText path text
  parses : d.loader.parses = d.loader.paths.length
  increasing : d.loader.paths.Pairwise (Text.precedes · ·)
  paths : ∀ path, path ∈ d.loader.paths ↔ ∃ text, (path, .ok text) ∈ d.readings

/-- What is kept of a reading. -/
def keptFrom? : Text × Except Failure Text → Option (Text × Loaded)
  | (path, .ok text) => some (path, .ofText path text)
  | (_, .error _) => none

/-- The invariant that readings keep: what is kept is what was read, in the order of reading. -/
structure Tidy (d : Desk σ) : Prop where
  canonical : ∀ reading ∈ d.readings,
    ∃ spelled, Path.canonical d.loader.directory spelled = .ok reading.1
  kept : d.loader.cache = d.readings.filterMap keptFrom?
  once : d.readings.Pairwise fun earlier later => earlier.2.isOk = true → later.1 ≠ earlier.1
  parses : d.loader.parses = d.loader.cache.length

theorem keptFrom?_eq_some {reading : Text × Except Failure Text} {path : Text} {loaded : Loaded} :
    keptFrom? reading = some (path, loaded) ↔
      ∃ text, reading = (path, .ok text) ∧ loaded = .ofText path text := by
  obtain ⟨key, cause | text⟩ := reading
  · simp [keptFrom?]
  · simp only [keptFrom?, Option.some.injEq, Prod.mk.injEq, Except.ok.injEq]
    constructor
    · rintro ⟨rfl, rfl⟩
      exact ⟨text, ⟨rfl, rfl⟩, rfl⟩
    · rintro ⟨other, ⟨rfl, rfl⟩, rfl⟩
      exact ⟨rfl, rfl⟩

namespace Tidy

theorem mem_cache_iff (tidy : d.Tidy) {path : Text} {loaded : Loaded} :
    (path, loaded) ∈ d.loader.cache ↔
      ∃ text, (path, .ok text) ∈ d.readings ∧ loaded = .ofText path text := by
  rw [tidy.kept, List.mem_filterMap]
  constructor
  · rintro ⟨reading, member, here⟩
    obtain ⟨text, rfl, same⟩ := keptFrom?_eq_some.mp here
    exact ⟨text, member, same⟩
  · rintro ⟨text, member, same⟩
    exact ⟨_, member, keptFrom?_eq_some.mpr ⟨text, rfl, same⟩⟩

/-- A file that is not kept has not been read. -/
theorem unread (tidy : d.Tidy) {path : Text} (absent : d.loader.cache.lookup path = none) :
    ∀ reading ∈ d.readings, reading.2.isOk = true → path ≠ reading.1 := by
  rintro ⟨key, cause | text⟩ member ok
  · cases ok
  · have kept := tidy.mem_cache_iff.mpr ⟨text, member, rfl⟩
    simpa using List.lookup_eq_none_iff.mp absent _ kept

theorem reading (tidy : d.Tidy) (step : d.Reading e) : e.Tidy := by
  -- Only a file that has not been read before is read.
  have fresh {path : Text} (result : Except Failure Text)
      (absent : d.loader.cache.lookup path = none) :
      (d.readings ++ [(path, result)]).Pairwise
        fun earlier later => earlier.2.isOk = true → later.1 ≠ earlier.1 := by
    refine List.pairwise_append.mpr ⟨tidy.once, List.pairwise_singleton .., ?_⟩
    intro earlier member later last
    rw [List.mem_singleton.mp last]
    exact tidy.unread absent earlier member
  have spelled {path : Text} (result : Except Failure Text)
      (canonical : ∃ spelled, Path.canonical d.loader.directory spelled = .ok path) :
      ∀ reading ∈ d.readings ++ [(path, result)],
        ∃ spelled, Path.canonical d.loader.directory spelled = .ok reading.1 := by
    intro reading member
    rcases List.mem_append.mp member with earlier | last
    · exact tidy.canonical reading earlier
    · rw [List.mem_singleton.mp last]
      exact canonical
  cases step with
  | nothing => exact tidy
  | failed w canonical absent =>
    refine ⟨spelled _ canonical, ?_, fresh _ absent, tidy.parses⟩
    simp [tidy.kept, keptFrom?]
  | kept w canonical absent =>
    refine ⟨spelled _ canonical, ?_, fresh _ absent, ?_⟩
    · simp [Loader.keep, tidy.kept, keptFrom?]
    · simp [Loader.keep, tidy.parses]

theorem leads (tidy : d.Tidy) (leads : Leads read d e) : e.Tidy := by
  induction leads with
  | refl => exact tidy
  | tail _ step ih =>
    cases step with
    | ask q => exact ih.reading (ask_reading read _ q)
    | meanwhile w => exact ⟨ih.canonical, ih.kept, ih.once, ih.parses⟩

theorem nodup_keys (tidy : d.Tidy) : (d.loader.cache.map Prod.fst).Nodup := by
  rw [tidy.kept, List.map_filterMap, List.Nodup, List.pairwise_filterMap]
  refine tidy.once.imp ?_
  intro earlier later distinct path first path' second same
  obtain ⟨⟨key, loaded⟩, here, rfl⟩ := Option.map_eq_some_iff.mp first
  obtain ⟨⟨key', loaded'⟩, here', rfl⟩ := Option.map_eq_some_iff.mp second
  obtain ⟨text, rfl, -⟩ := keptFrom?_eq_some.mp here
  obtain ⟨text', rfl, -⟩ := keptFrom?_eq_some.mp here'
  exact distinct rfl same.symm

theorem lookup_iff (tidy : d.Tidy) {path : Text} {loaded : Loaded} :
    d.loader.cache.lookup path = some loaded ↔ (path, loaded) ∈ d.loader.cache := by
  constructor
  · intro here
    obtain ⟨before, after, split, -⟩ := List.lookup_eq_some_iff.mp here
    simp [split]
  · intro member
    obtain ⟨before, after, split⟩ := List.append_of_mem member
    have keys := tidy.nodup_keys
    rw [split, List.map_append, List.map_cons] at keys
    refine List.lookup_eq_some_iff.mpr ⟨before, after, split, fun other earlier => ?_⟩
    have differs : path ≠ other.1 := by
      rintro rfl
      exact (List.nodup_append.mp keys).2.2 _ (List.mem_map_of_mem earlier) _ List.mem_cons_self rfl
    simpa using differs

theorem snapshot (tidy : d.Tidy) : d.Snapshot where
  once before after path text split later member := by
    have distinct := tidy.once
    rw [split, List.pairwise_append] at distinct
    exact (List.pairwise_cons.mp distinct.2.1).1 later member rfl
  canonical := tidy.canonical
  entries path loaded := tidy.lookup_iff.trans tidy.mem_cache_iff
  parses := by rw [Loader.paths, Text.length_sorted, List.length_map, tidy.parses]
  increasing := Text.pairwise_sorted tidy.nodup_keys
  paths path := by
    rw [Loader.paths, Text.mem_sorted, List.mem_map]
    constructor
    · rintro ⟨⟨key, loaded⟩, member, rfl⟩
      obtain ⟨text, here, -⟩ := tidy.mem_cache_iff.mp member
      exact ⟨text, here⟩
    · rintro ⟨text, here⟩
      exact ⟨_, tidy.mem_cache_iff.mpr ⟨text, here, rfl⟩, rfl⟩

end Tidy

theorem Reading.extends (step : d.Reading e) : d.loader.Extends e.loader := by
  cases step with
  | nothing => exact .refl _
  | failed w canonical absent => exact .refl _
  | kept w canonical absent => exact ⟨rfl, List.prefix_append ..⟩

theorem Leads.extends (leads : Leads read d e) : d.loader.Extends e.loader := by
  induction leads with
  | refl => exact .refl _
  | tail _ step ih =>
    cases step with
    | ask q => exact ih.trans (ask_reading read _ q).extends
    | meanwhile w => exact ih

/-- Without a reading that succeeds everything that is kept stays as it is. -/
theorem Reading.unchanged (step : d.Reading e) :
    ∃ new, e.readings = d.readings ++ new ∧
      ((∀ reading ∈ new, reading.2.isOk = false) → e.loader = d.loader) := by
  cases step with
  | nothing => exact ⟨[], by simp⟩
  | failed w canonical absent => exact ⟨_, rfl, fun _ => rfl⟩
  | @kept path text w canonical absent =>
    refine ⟨_, rfl, fun failed => ?_⟩
    have refused := failed (path, .ok text) List.mem_cons_self
    simp [Except.isOk, Except.toBool] at refused

end Desk

/-- The address of the scene that a request asks for. -/
def Request.address? (directory : Text) : Request → Option Address
  | .load _ | .diagnostics _ => none
  | .resolve a => (Path.canonical directory a.file).toOption.map ({ a with file := · })
  | .lookup a => some a
  | .follow origin (.sameFile module scene) =>
    some ⟨origin.file, module.getD origin.module, scene⟩
  | .follow origin (.otherFile path module scene) =>
    (Path.canonical directory (Loader.targetPath origin path)).toOption.map (⟨·, module, scene⟩)

/-- Where a scene lies among the files that a loader keeps. -/
structure Spot where
  file : Text
  module : Nat
  scene : Nat
  deriving DecidableEq, Repr

namespace Loader

variable {σ : Type} {read : ReadFile σ} {l : Loader} {w : σ} {found other : Found}

def spot? (l : Loader) (a : Address) : Option Spot :=
  (l.cache.lookup a.file).bind fun loaded =>
    (loaded.script.modules.findIdx? (·.name = a.module)).bind fun i =>
      (loaded.script.modules[i]?).bind fun m =>
        (m.scenes.findIdx? (·.name = a.scene)).map fun j => ⟨a.file, i, j⟩

def sceneAt? (l : Loader) (spot : Spot) : Option Scene :=
  (l.cache.lookup spot.file).bind fun loaded =>
    (loaded.script.modules[spot.module]?).bind fun m => m.scenes[spot.scene]?

/-- That a loader keeps the file of a scene and finds the scene in it. -/
def Finds (l : Loader) (found : Found) : Prop :=
  ∃ loaded, l.cache.lookup found.address.file = some loaded ∧
    loaded.script.find found.address.module found.address.scene = .ok found

theorem Finds.mono {after : Loader} (more : l.Extends after) (finds : l.Finds found) :
    after.Finds found := by
  obtain ⟨loaded, here, declared⟩ := finds
  exact ⟨loaded, more.2.lookup_eq_some here, declared⟩

theorem Finds.unique (finds : l.Finds found) (finds' : l.Finds other)
    (same : found.address = other.address) : other = found := by
  obtain ⟨loaded, here, declared⟩ := finds
  obtain ⟨loaded', here', declared'⟩ := finds'
  rw [← same] at here' declared'
  obtain rfl : loaded = loaded' := Option.some.inj (here.symm.trans here')
  exact Except.ok.inj (declared'.symm.trans declared)

/-- A scene that is found lies in one spot. -/
theorem Finds.spot (finds : l.Finds found) :
    ∃ spot, l.spot? found.address = some spot ∧ l.sceneAt? spot = some found.scene := by
  obtain ⟨loaded, here, declared⟩ := finds
  obtain ⟨-, inScript, inModule⟩ := Script.find_eq_ok_iff.mp declared
  rw [Script.module?, List.find?_eq_bind_findIdx?_getElem?, Option.bind_eq_some_iff] at inScript
  rw [Module.scene?, List.find?_eq_bind_findIdx?_getElem?, Option.bind_eq_some_iff] at inModule
  obtain ⟨i, module, atModule⟩ := inScript
  obtain ⟨j, scene, atScene⟩ := inModule
  exact ⟨⟨found.address.file, i, j⟩, by simp [spot?, here, module, atModule, scene],
    by simp [sceneAt?, here, atModule, atScene]⟩

theorem spot?_mono {after : Loader} (more : l.Extends after) {a : Address} {spot : Spot}
    (here : l.spot? a = some spot) : after.spot? a = some spot := by
  obtain ⟨loaded, kept, rest⟩ := Option.bind_eq_some_iff.mp here
  exact Option.bind_eq_some_iff.mpr ⟨loaded, more.2.lookup_eq_some kept, rest⟩

theorem sceneAt?_mono {after : Loader} (more : l.Extends after) {spot : Spot} {scene : Scene}
    (here : l.sceneAt? spot = some scene) : after.sceneAt? spot = some scene := by
  obtain ⟨loaded, kept, rest⟩ := Option.bind_eq_some_iff.mp here
  exact Option.bind_eq_some_iff.mpr ⟨loaded, more.2.lookup_eq_some kept, rest⟩

variable {texts : Text → Text → Prop}

theorem resolve_finds {a : Address} (kept : (l.resolve read a w).loader.ReadFrom texts)
    (ok : (l.resolve read a w).result = .ok found) :
    (l.resolve read a w).loader.Finds found ∧
      Request.address? l.directory (.resolve a) = some found.address := by
  obtain ⟨loaded, loads, -, declared⟩ := resolve_eq_ok_iff.mp ok
  obtain ⟨key, canonical, here⟩ := load_lookup _ _ _ _ loads
  obtain ⟨text, -, rfl⟩ := kept.of_lookup here
  have address : found.address = ⟨key, a.module, a.scene⟩ := (Script.find_eq_ok_iff.mp declared).1
  refine ⟨⟨.ofText key text, ?_, ?_⟩, ?_⟩
  · rw [address]
    exact here
  · rw [address]
    exact declared
  · simp [Request.address?, canonical, Except.toOption, address]

theorem lookup_finds {a : Address} (kept : l.ReadFrom texts) (ok : l.lookup a = .ok found) :
    l.Finds found ∧ found.address = a := by
  obtain ⟨loaded, here, -, declared⟩ := lookup_eq_ok_iff.mp ok
  obtain ⟨text, -, rfl⟩ := kept.of_lookup here
  have address : found.address = a := (Script.find_eq_ok_iff.mp declared).1
  subst address
  exact ⟨⟨_, here, declared⟩, rfl⟩

theorem map_scene_eq_ok {result : Except Failure Found} {found : Found}
    (ok : result.map Reply.scene = .ok (.scene found)) : result = .ok found := by
  cases result with
  | error f => cases ok
  | ok other => cases ok; rfl

/-- A request that is answered with a scene asked for its address, and the scene is found there. -/
theorem ask_finds {q : Request} (kept : (l.ask read w q).loader.ReadFrom texts)
    (ok : (l.ask read w q).result = .ok (.scene found)) :
    (l.ask read w q).loader.Finds found ∧ q.address? l.directory = some found.address := by
  cases q with
  | load path => cases loaded : (l.load read path w).result <;> simp [ask, loaded, Except.map] at ok
  | diagnostics path =>
    cases loaded : (l.load read path w).result <;> simp [ask, loaded, Except.map] at ok
  | resolve a => exact resolve_finds kept (map_scene_eq_ok ok)
  | lookup a =>
    obtain ⟨finds, rfl⟩ := lookup_finds kept (map_scene_eq_ok ok)
    exact ⟨finds, rfl⟩
  | follow origin target =>
    cases target with
    | sameFile module scene =>
      obtain ⟨finds, address⟩ := lookup_finds kept (map_scene_eq_ok ok)
      exact ⟨finds, congrArg some address.symm⟩
    | otherFile path module scene => exact resolve_finds kept (map_scene_eq_ok ok)

end Loader

namespace Desk

variable {σ : Type} {read : ReadFile σ} {d e : Desk σ}

theorem Tidy.readFrom (tidy : d.Tidy) : d.loader.ReadFrom fun _ _ => True := by
  rintro ⟨path, loaded⟩ member
  obtain ⟨text, -, same⟩ := tidy.mem_cache_iff.mp member
  exact ⟨text, trivial, same⟩

theorem ask_local {q : Request} (known : q.isLocal = true) : (d.ask read q).2 = d := by
  cases q with
  | lookup a => rfl
  | follow origin target =>
    cases target with
    | sameFile module scene => rfl
    | otherFile path module scene => cases known
  | _ => cases known

/-- Whatever else is asked and whatever becomes of the files, a scene that was found once is found
    again in the same spot. -/
theorem Tidy.same_scene (tidy : d.Tidy) {q q' : Request} {found found' : Found}
    (first : (d.ask read q).1 = .ok (.scene found)) (leads : Leads read (d.ask read q).2 e)
    (second : (e.ask read q').1 = .ok (.scene found'))
    (same : q.address? d.loader.directory = q'.address? d.loader.directory) :
    found' = found ∧ ∃ spot,
      (d.ask read q).2.loader.spot? found.address = some spot ∧
      (d.ask read q).2.loader.sceneAt? spot = some found.scene ∧
      (e.ask read q').2.loader.spot? found'.address = some spot ∧
      (e.ask read q').2.loader.sceneAt? spot = some found'.scene := by
  have asked := tidy.reading (ask_reading read d q)
  have askedAgain := (asked.leads leads).reading (ask_reading read e q')
  have more := leads.extends.trans (ask_reading read e q').extends
  obtain ⟨finds, address⟩ := Loader.ask_finds asked.readFrom first
  obtain ⟨finds', address'⟩ := Loader.ask_finds askedAgain.readFrom second
  have directory : e.loader.directory = d.loader.directory :=
    leads.extends.1.trans (ask_reading read d q).extends.1
  rw [directory, ← same, address] at address'
  obtain rfl := (finds.mono more).unique finds' (Option.some.inj address')
  obtain ⟨spot, here, scene⟩ := finds.spot
  exact ⟨rfl, spot, here, scene, Loader.spot?_mono more here, Loader.sceneAt?_mono more scene⟩

end Desk

/-- A loader that starts empty reads a file successfully at most once and keeps what it held then,
    whatever becomes of the file; it counts and lists exactly the files it has read so. A request
    without a successful reading leaves all that is kept as it is, requests within files already
    read do nothing at all, and a scene that was found is found again as the same scene in the same
    spot. -/
theorem loader_keeps_first_reading {σ : Type} {read : ReadFile σ} {directory : Text} {w : σ}
    {d : Desk σ} (leads : Desk.Leads read ⟨{ directory }, w, []⟩ d) :
    d.Snapshot ∧
    (∀ q, ∃ new, (d.ask read q).2.readings = d.readings ++ new ∧
      ((∀ reading ∈ new, reading.2.isOk = false) → (d.ask read q).2.loader = d.loader)) ∧
    (∀ q, q.isLocal = true → (d.ask read q).2 = d) ∧
    (∀ e, Desk.Leads read d e → ∀ path loaded,
      d.loader.cache.lookup path = some loaded → e.loader.cache.lookup path = some loaded) ∧
    ∀ q found, (d.ask read q).1 = .ok (.scene found) →
      ∀ e, Desk.Leads read (d.ask read q).2 e →
      ∀ q' found', (e.ask read q').1 = .ok (.scene found') →
      q.address? directory = q'.address? directory →
        found' = found ∧ ∃ spot,
          (d.ask read q).2.loader.spot? found.address = some spot ∧
          (d.ask read q).2.loader.sceneAt? spot = some found.scene ∧
          (e.ask read q').2.loader.spot? found'.address = some spot ∧
          (e.ask read q').2.loader.sceneAt? spot = some found'.scene := by
  have tidy : d.Tidy := Desk.Tidy.leads ⟨by simp, rfl, .nil, rfl⟩ leads
  have home : d.loader.directory = directory := leads.extends.1
  refine ⟨tidy.snapshot, fun q => (Desk.ask_reading read d q).unchanged,
    fun q known => Desk.ask_local known,
    fun e later path loaded here => later.extends.2.lookup_eq_some here, ?_⟩
  intro q found first e later q' found' second same
  rw [← home] at same
  exact tidy.same_scene first later second same

/-- A scene is found again after its file was deleted, by another spelling of the path. -/
theorem loader_keeps_first_reading_deleted :
    let read : ReadFile (Option Text) := fun _ w =>
      (match w with | some text => .ok text | none => .error [.missing "gone"], w)
    let scene : Scene := ⟨"s", ⟨1, 12⟩, none, [], [⟨"on", [], .sameFile none "s", ⟨1, 31⟩⟩]⟩
    let found : Found := ⟨⟨"/a", "m", "s"⟩, ⟨"m", ⟨1, 1⟩, "/a", [scene]⟩, scene⟩
    let start : Desk (Option Text) := ⟨{ directory := "/" },
      some "@module m: @scene s: select \x7b \"on\" => s \x7d; @end-module", []⟩
    let first := start.ask read (.resolve ⟨"a", "m", "s"⟩)
    let deleted : Desk (Option Text) := { first.2 with world := none }
    let second := deleted.ask read (.resolve ⟨"/b/../a", "m", "s"⟩)
    Desk.Leads read start deleted ∧ deleted.Snapshot ∧
      first.1 = .ok (.scene found) ∧ second.1 = .ok (.scene found) ∧
      ∃ spot, first.2.loader.spot? found.address = some spot ∧
        second.2.loader.spot? found.address = some spot := by
  intro read scene found start first deleted second
  have leads : Desk.Leads read first.2 deleted := .single (.meanwhile first.2 none)
  have reached : Desk.Leads read start deleted := .head (.ask start _) leads
  have foundFirst : first.1 = .ok (.scene found) := by decide +kernel
  have foundAgain : second.1 = .ok (.scene found) := by decide +kernel
  have nothing : Desk.Leads read start start := .refl
  obtain ⟨-, -, -, -, same⟩ := loader_keeps_first_reading nothing
  obtain ⟨-, spot, here, -, there, -⟩ :=
    same _ found foundFirst deleted leads _ found foundAgain (by decide +kernel)
  exact ⟨reached, (loader_keeps_first_reading reached).1, foundFirst, foundAgain, spot, here, there⟩

end Gamebook
