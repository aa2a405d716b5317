import Gamebook.Proofs.Loader.Snapshot
import Gamebook.Proofs.Path

/-! # Addresses of scenes that were found

A loader keeps files under canonical paths, and a canonical path leads to itself. So the address of a
scene that was found can be asked for again as it is: the scene is found there without reading
anything, by whatever path a target spells the file. Paths with one canonical form are one path to a
loader.
-/

namespace Gamebook

namespace Loader

variable {σ : Type} {read : ReadFile σ} {l : Loader} {w : σ} {found : Found}

/-- The path of a target is taken from the directory of the file it stands in. -/
theorem canonical_targetPath {origin : Address} (is : Path.IsCanonical origin.file) (base path : Text) :
    Path.canonical base (targetPath origin path) =
      .ok (Path.absolute (Path.directory origin.file) path) := by
  by_cases rooted : Path.isAbsolute path = true
  · have full : path.isEmpty = false := by
      cases path with
      | nil => cases rooted
      | cons b path => rfl
    simp [targetPath, rooted, Path.canonical, Path.absolute, full]
  · have joined := Path.isCanonical_join is.directory.isAbsolute path
    simpa [targetPath, rooted, Path.absolute] using joined.canonical_eq base

variable (read w) in
theorem load_of_kept {path key : Text} {loaded : Loaded}
    (canonical : Path.canonical l.directory path = .ok key)
    (here : l.cache.lookup key = some loaded) :
    (l.load read path w).result = .ok loaded ∧ (l.load read path w).loader = l ∧
      (l.load read path w).world = w := by
  simp [load, canonical, here]

variable (read w) in
/-- In a file that is kept a scene is asked for by its path just as it is looked up. -/
theorem resolve_of_kept {a : Address} {key : Text} {loaded : Loaded}
    (canonical : Path.canonical l.directory a.file = .ok key)
    (here : l.cache.lookup key = some loaded) :
    (l.resolve read a w).result = l.lookup ⟨key, a.module, a.scene⟩ ∧
      (l.resolve read a w).loader = l ∧ (l.resolve read a w).world = w := by
  obtain ⟨result, loader, world⟩ := load_of_kept read w canonical here
  exact ⟨by simp [resolve, result, lookup, here, bind, Except.bind], loader, world⟩

/-- Paths with one canonical form are loaded alike. -/
theorem load_congr {path other : Text}
    (same : Path.canonical l.directory path = Path.canonical l.directory other) :
    l.load read path w = l.load read other w := by
  cases canonical : Path.canonical l.directory path with
  | ok key => simp [load, ← same, canonical]
  | error cause =>
    have empty {p : Text} (failed : Path.canonical l.directory p = .error cause) : p = [] := by
      unfold Path.canonical at failed
      split at failed
      · next none => simpa using none
      · cases failed
    rw [empty canonical, empty (same.symm.trans canonical)]

/-- A file that could not be loaded and still cannot be read fails to load as before. -/
theorem load_failed_again {path : Text} {f : Failure} {v : σ}
    (failed : (l.load read path w).result = .error f)
    (unchanged : ∀ key, Path.canonical l.directory path = .ok key →
      (read key v).1 = (read key w).1) :
    ((l.load read path w).loader.load read path v).result = .error f := by
  cases canonical : Path.canonical l.directory path with
  | error cause => simpa [load, canonical] using failed
  | ok key =>
    have still := unchanged key canonical
    cases here : l.cache.lookup key with
    | some loaded => simp [load, canonical, here] at failed
    | none =>
      rcases first : read key w with ⟨cause | text, after⟩
      · rcases second : read key v with ⟨other | text, later⟩
        · simp only [first, second, Except.error.injEq] at still
          subst still
          simpa [load, canonical, here, first, second] using failed
        · simp [first, second] at still
      · simp [load, canonical, here, first] at failed

variable {texts : Text → Text → Prop}

theorem resolve_lookup {a : Address} (kept : (l.resolve read a w).loader.ReadFrom texts)
    (ok : (l.resolve read a w).result = .ok found) :
    (l.resolve read a w).loader.lookup found.address = .ok found := by
  obtain ⟨loaded, loads, playable, declared⟩ := resolve_eq_ok_iff.mp ok
  obtain ⟨key, -, here⟩ := load_lookup _ _ _ _ loads
  obtain ⟨text, -, rfl⟩ := kept.of_lookup here
  have address : found.address = ⟨key, a.module, a.scene⟩ := (Script.find_eq_ok_iff.mp declared).1
  rw [address]
  exact lookup_eq_ok_iff.mpr ⟨_, here, playable, declared⟩

/-- A scene that a request was answered with can be looked up by its address. -/
theorem ask_lookup {q : Request} (kept : (l.ask read w q).loader.ReadFrom texts)
    (ok : (l.ask read w q).result = .ok (.scene found)) :
    (l.ask read w q).loader.lookup found.address = .ok found := by
  have looked {a : Address} (kept : l.ReadFrom texts) (ok : l.lookup a = .ok found) :
      l.lookup found.address = .ok found := by
    obtain ⟨-, rfl⟩ := lookup_finds kept ok
    exact ok
  cases q with
  | load path | diagnostics path =>
    cases loaded : (l.load read path w).result <;> simp [ask, loaded, Except.map] at ok
  | resolve a => exact resolve_lookup kept (map_scene_eq_ok ok)
  | lookup a => exact looked kept (map_scene_eq_ok ok)
  | follow origin target =>
    cases target with
    | sameFile module scene => exact looked kept (map_scene_eq_ok ok)
    | otherFile path module scene => exact resolve_lookup kept (map_scene_eq_ok ok)

end Loader

namespace Desk

variable {σ : Type} {read : ReadFile σ} {d e : Desk σ} {q : Request} {found : Found}

theorem Tidy.isCanonical (tidy : d.Tidy) (rooted : Path.isAbsolute d.loader.directory = true)
    {path : Text} {loaded : Loaded} (here : d.loader.cache.lookup path = some loaded) :
    Path.IsCanonical path := by
  obtain ⟨text, member, -⟩ := tidy.mem_cache_iff.mp (tidy.lookup_iff.mp here)
  obtain ⟨spelled, canonical⟩ := tidy.canonical _ member
  exact Path.isCanonical_of_canonical rooted canonical

theorem Tidy.ask_lookup (tidy : d.Tidy) (ok : (d.ask read q).1 = .ok (.scene found)) :
    (d.ask read q).2.loader.lookup found.address = .ok found :=
  Loader.ask_lookup (tidy.reading (ask_reading read d q)).readFrom ok

/-- By a path that leads to a file that is kept a scene is found as it is looked up. -/
theorem ask_resolve_of_kept {a : Address} {key : Text} {loaded : Loaded}
    (canonical : Path.canonical d.loader.directory a.file = .ok key)
    (here : d.loader.cache.lookup key = some loaded) :
    d.ask read (.resolve a) = ((d.loader.lookup ⟨key, a.module, a.scene⟩).map .scene, d) := by
  obtain ⟨result, loader, world⟩ :=
    Loader.resolve_of_kept read.noting (d.world, d.readings) canonical here
  simp [ask, Loader.ask, result, loader, world]

/-- How often a file has been read. -/
def readCount (d : Desk σ) (path : Text) : Nat :=
  d.readings.countP fun reading => reading.1 = path && reading.2.isOk

theorem Tidy.readCount_le_one (tidy : d.Tidy) (path : Text) : d.readCount path ≤ 1 := by
  rw [readCount, List.countP_eq_length_filter]
  have distinct := tidy.once.filter fun reading => reading.1 = path && reading.2.isOk
  have alike : ∀ reading ∈ d.readings.filter (fun reading => reading.1 = path && reading.2.isOk),
      reading.1 = path ∧ reading.2.isOk = true := by
    intro reading member
    simpa using (List.mem_filter.mp member).2
  generalize d.readings.filter (fun reading => reading.1 = path && reading.2.isOk) = same
    at distinct alike
  match same with
  | [] | [_] => simp
  | first :: second :: rest =>
    obtain ⟨here, later⟩ := List.forall_mem_cons.mp alike
    have apart := (List.pairwise_cons.mp distinct).1 second List.mem_cons_self here.2
    exact absurd ((later second List.mem_cons_self).1.trans here.1.symm) apart

theorem ask_load_congr {path other : Text}
    (same : Path.canonical d.loader.directory path = Path.canonical d.loader.directory other) :
    d.ask read (.load path) = d.ask read (.load other) := by
  simp only [ask, Loader.ask, Loader.load_congr same]

/-- A file that was loaded is there for good, by whatever path. -/
theorem ask_load_again {path other : Text}
    (same : Path.canonical d.loader.directory path = Path.canonical d.loader.directory other)
    (ok : (d.ask read (.load path)).1.isOk = true) (leads : Leads read (d.ask read (.load path)).2 e) :
    e.ask read (.load other) = ((d.ask read (.load path)).1, e) := by
  cases loads : (d.loader.load read.noting path (d.world, d.readings)).result with
  | error f => simp [ask, Loader.ask, loads, Except.map, Except.isOk, Except.toBool] at ok
  | ok loaded =>
    obtain ⟨key, canonical, here⟩ := Loader.load_lookup _ _ _ _ loads
    have kept : e.loader.cache.lookup key = some loaded := leads.extends.2.lookup_eq_some here
    have directory : e.loader.directory = d.loader.directory :=
      leads.extends.1.trans (ask_reading read d (.load path)).extends.1
    rw [same, ← directory] at canonical
    obtain ⟨result, loader, world⟩ :=
      Loader.load_of_kept read.noting (e.world, e.readings) canonical kept
    simp [ask, Loader.ask, result, loader, world, loads]

/-- Loading a file by another path gives the same again, if what failed to be read still does. -/
theorem ask_load_same {path other : Text} {v : σ}
    (same : Path.canonical d.loader.directory path = Path.canonical d.loader.directory other)
    (unchanged : ∀ key, Path.canonical d.loader.directory path = .ok key →
      (read key v).1 = (read key d.world).1) :
    (Desk.ask read { (d.ask read (.load path)).2 with world := v } (.load other)).1 =
      (d.ask read (.load path)).1 := by
  have later : Leads read (d.ask read (.load path)).2 { (d.ask read (.load path)).2 with world := v } :=
    .single (.meanwhile _ v)
  cases loads : (d.loader.load read.noting path (d.world, d.readings)).result with
  | ok loaded =>
    have ok : (d.ask read (.load path)).1.isOk = true := by
      simp [ask, Loader.ask, loads, Except.map, Except.isOk, Except.toBool]
    rw [ask_load_again same ok later]
  | error f =>
    have directory : (d.ask read (.load path)).2.loader.directory = d.loader.directory :=
      (ask_reading read d (.load path)).extends.1
    rw [← ask_load_congr (by simpa [directory] using same)]
    have again := Loader.load_failed_again
      (v := (v, (d.ask read (.load path)).2.readings)) loads unchanged
    simp only [ask, Loader.ask] at again ⊢
    rw [again, loads]

/-- What is known of a scene that a loader found, when the loader has come to `e`. -/
structure Settles (read : ReadFile σ) (found : Found) (e : Desk σ) : Prop where
  isAbsolute : Path.isAbsolute found.address.file = true
  canonical : Path.canonical e.loader.directory found.address.file = .ok found.address.file
  /-- The scene is looked up or asked for by its address without any reading. -/
  lookup : e.ask read (.lookup found.address) = (.ok (.scene found), e)
  resolve : e.ask read (.resolve found.address) = (.ok (.scene found), e)
  /-- The path of a target is taken from the directory of the scene's file. -/
  target : ∀ path, Path.canonical e.loader.directory (Loader.targetPath found.address path) =
    .ok (Path.absolute (Path.directory found.address.file) path)
  /-- A target that spells the path of the same file leads where a target without a path does. -/
  spelled : ∀ path,
    Path.canonical e.loader.directory (Loader.targetPath found.address path) =
      .ok found.address.file →
    ∀ module scene, e.ask read (.follow found.address (.otherFile path module scene)) =
      e.ask read (.follow found.address (.sameFile (some module) scene))

theorem Tidy.settles (tidy : e.Tidy) (rooted : Path.isAbsolute e.loader.directory = true)
    (looked : e.loader.lookup found.address = .ok found) : e.Settles read found := by
  obtain ⟨loaded, here, -, -⟩ := Loader.lookup_eq_ok_iff.mp looked
  have is := tidy.isCanonical rooted here
  have fixed := is.canonical_eq e.loader.directory
  exact
    { isAbsolute := is.isAbsolute
      canonical := fixed
      lookup := by
        simp only [ask, Loader.ask, looked]
        rfl
      resolve := by
        rw [ask_resolve_of_kept fixed here, looked]
        rfl
      target := Loader.canonical_targetPath is e.loader.directory
      spelled := by
        intro path leads module scene
        exact ask_resolve_of_kept (a := ⟨_, module, scene⟩) leads here }

end Desk

/-- The file of a scene that was found is an absolute path and its own canonical form. Whatever else
    happens, the scene is found again in the same spot by its address, looked up or asked for, and
    nothing is read for it; and a target that spells the path of its own file in any way leads where
    the target without a path does, to a scene or to a failure. Paths with one canonical form are
    loaded alike, with one successful reading at most. -/
theorem resolved_addresses_are_fixed {σ : Type} {read : ReadFile σ} {directory : Text}
    (rooted : Path.isAbsolute directory = true) {w : σ} {d : Desk σ}
    (leads : Desk.Leads read ⟨{ directory }, w, []⟩ d) :
    (∀ q found, (d.ask read q).1 = .ok (.scene found) →
      ∀ e, Desk.Leads read (d.ask read q).2 e →
        e.loader.directory = directory ∧ e.Settles read found ∧
        ∃ spot, (d.ask read q).2.loader.spot? found.address = some spot ∧
          (d.ask read q).2.loader.sceneAt? spot = some found.scene ∧
          e.loader.spot? found.address = some spot ∧
          e.loader.sceneAt? spot = some found.scene) ∧
    ∀ path other, Path.canonical directory path = Path.canonical directory other →
      let first := d.ask read (.load path)
      first = d.ask read (.load other) ∧
      (first.1.isOk = true →
        ∀ e, Desk.Leads read first.2 e → e.ask read (.load other) = (first.1, e)) ∧
      (∀ v, (∀ key, Path.canonical directory path = .ok key →
          (read key v).1 = (read key d.world).1) →
        (Desk.ask read { first.2 with world := v } (.load other)).1 = first.1) ∧
      ∀ key, Path.canonical directory path = .ok key →
        ∀ e, Desk.Leads read first.2 e → (e.ask read (.load other)).2.readCount key ≤ 1 := by
  have tidy : d.Tidy := Desk.Tidy.leads ⟨by simp, rfl, .nil, rfl⟩ leads
  have home : d.loader.directory = directory := leads.extends.1
  subst home
  constructor
  · intro q found ok e later
    have asked := tidy.reading (Desk.ask_reading read d q)
    have directory : e.loader.directory = d.loader.directory :=
      later.extends.1.trans (Desk.ask_reading read d q).extends.1
    have looked := Loader.lookup_mono later.extends (tidy.ask_lookup ok)
    obtain ⟨finds, -⟩ := Loader.ask_finds asked.readFrom ok
    obtain ⟨spot, here, scene⟩ := finds.spot
    refine ⟨directory, (asked.leads later).settles (directory ▸ rooted) looked, ?_⟩
    exact ⟨spot, here, scene, Loader.spot?_mono later.extends here,
      Loader.sceneAt?_mono later.extends scene⟩
  · intro path other same first
    have asked := tidy.reading (Desk.ask_reading read d (.load path))
    refine ⟨Desk.ask_load_congr same, fun ok e later => Desk.ask_load_again same ok later,
      fun v unchanged => Desk.ask_load_same same unchanged, ?_⟩
    intro key canonical e later
    exact ((asked.leads later).reading (Desk.ask_reading read e _)).readCount_le_one key

/-- A scene is found and its file deleted. Targets that lead up and down and to the root again still
    lead to it, and one to a scene that is not there fails as it does without a path. -/
theorem resolved_addresses_are_fixed_detour :
    let read : ReadFile (Option Text) := fun _ w =>
      (match w with | some text => .ok text | none => .error [.missing "gone"], w)
    let scene : Scene := ⟨"s", ⟨1, 12⟩, none, [], [⟨"on", [], .sameFile none "s", ⟨1, 31⟩⟩]⟩
    let found : Found := ⟨⟨"/d/a/b", "m", "s"⟩, ⟨"m", ⟨1, 1⟩, "/d/a/b", [scene]⟩, scene⟩
    let start : Desk (Option Text) := ⟨{ directory := "/d/./c/.." },
      some "@module m: @scene s: select \x7b \"on\" => s \x7d; @end-module", []⟩
    let first := start.ask read (.resolve ⟨".//a/b", "m", "s"⟩)
    let deleted : Desk (Option Text) := { first.2 with world := none }
    first.1 = .ok (.scene found) ∧ Desk.Leads read first.2 deleted ∧ deleted.Settles read found ∧
      deleted.ask read (.follow found.address (.otherFile "../a/.//b" "m" "s")) =
        (.ok (.scene found), deleted) ∧
      deleted.ask read (.follow found.address (.otherFile "/d/x/../a/b" "m" "t")) =
        deleted.ask read (.follow found.address (.sameFile (some "m") "t")) ∧
      (deleted.ask read (.load "x/..//a/b")).2 = deleted := by
  intro read scene found start first deleted
  have later : Desk.Leads read first.2 deleted := .single (.meanwhile first.2 none)
  have foundFirst : first.1 = .ok (.scene found) := by decide +kernel
  have nothing : Desk.Leads read start start := .refl
  obtain ⟨settled, loads⟩ := resolved_addresses_are_fixed (by decide) nothing
  obtain ⟨-, settles, -⟩ := settled _ found foundFirst deleted later
  have detour := settles.spelled "../a/.//b" (by decide +kernel) "m" "s"
  have again : deleted.ask read (.follow found.address (.sameFile (some "m") "s")) =
      (.ok (.scene found), deleted) := settles.lookup
  have rootward := settles.spelled "/d/x/../a/b" (by decide +kernel) "m" "t"
  obtain ⟨-, loaded, -, -⟩ := loads ".//a/b" "x/..//a/b" (by decide +kernel)
  have unread := loaded (by decide +kernel) deleted later
  exact ⟨foundFirst, later, settles, detour.trans again, rootward, congrArg Prod.snd unread⟩

end Gamebook
