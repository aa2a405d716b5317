import Gamebook.Proofs.Session.Game

/-! # A session plays the game of its story

With a host that reads the files of a story and never fails, a session goes through the states of
the game. The simulation needs the loader to hold only what the story's files say, and the file of
the current scene among it, so that a scene found there is the scene that the story has.
-/

namespace Gamebook

/-- A host for a story that always reads the same, shows everything and lets the session go on. -/
structure Host.Serves {σ : Type} (h : Host σ) (st : Story) : Prop where
  live : ∀ w, (h.halted w).1 = none
  reads : ∀ path w, (h.read path w).1 = st.files path
  tells : ∀ lines w, (h.tell lines w).1 = none
  offers : ∀ choices w, (h.offer choices w).1 = none
  complains : ∀ message w, (h.complain message w).1 = none

/-- A loader that keeps nothing but what the files of a story say. -/
structure Loader.Mirrors (l : Loader) (st : Story) : Prop where
  directory : l.directory = st.directory
  kept : l.ReadFrom fun path text => st.files path = .ok text

theorem Story.host_serves (st : Story) : st.host.Serves st where
  live _ := rfl
  reads _ _ := rfl
  tells _ _ := rfl
  offers _ _ := rfl
  complains _ _ := rfl

namespace Host.Serves

variable {σ : Type} {h : Host σ} {st : Story}

theorem not_halts (serves : h.Serves st) {cause : Failure} : ¬h.Halts cause := by
  rintro ⟨w, asked⟩
  rw [serves.live] at asked
  cases asked

theorem not_refuses (serves : h.Serves st) {cause : Failure} : ¬h.Refuses cause := by
  rintro ⟨w, ⟨lines, failed⟩ | ⟨choices, failed⟩ | ⟨message, failed⟩⟩
  · rw [serves.tells] at failed
    cases failed
  · rw [serves.offers] at failed
    cases failed
  · rw [serves.complains] at failed
    cases failed

theorem given (serves : h.Serves st) (key : Text) (w : σ) (text : Text)
    (ok : (h.read key w).1 = .ok text) : st.files key = .ok text := by
  rw [← serves.reads key w]
  exact ok

end Host.Serves

namespace Loader.Mirrors

variable {σ : Type} {h : Host σ} {st : Story} {l : Loader}

theorem load (mirrors : l.Mirrors st) (serves : h.Serves st) (path : Text) (w : σ) :
    (l.load h.read path w).loader.Mirrors st :=
  ⟨(load_extends h.read l path w).1.trans mirrors.directory,
    mirrors.kept.load h.read path w serves.given⟩

theorem follow (mirrors : l.Mirrors st) (serves : h.Serves st) (origin : Address) (target : Target)
    (w : σ) : (l.follow h.read origin target w).loader.Mirrors st :=
  ⟨follow_extends.1.trans mirrors.directory, mirrors.kept.follow serves.given⟩

/-- In a file that is kept and can be played, the story has exactly the scenes that are declared. -/
theorem scene?_eq (mirrors : l.Mirrors st) {file : Text} {loaded : Loaded}
    (here : l.cache.lookup file = some loaded) (playable : loaded.failure = none)
    (module scene : Text) :
    st.scene? ⟨file, module, scene⟩ = (loaded.script.module? module).bind (·.scene? scene) := by
  obtain ⟨text, read, rfl⟩ := mirrors.kept.of_lookup here
  simp [Story.scene?, read, playable]

end Loader.Mirrors

/-- That looking for a scene finds the one that a story has at an address, and fails only if the
    story has none there. -/
def Story.Answers (st : Story) (a? : Option Address) : Except Failure Found → Prop
  | .ok found => a? = some found.address ∧ st.scene? found.address = some found.scene
  | .error _ => a?.bind st.scene? = none

namespace Loader.Mirrors

variable {σ : Type} {h : Host σ} {st : Story} {l : Loader}

theorem find_answers (mirrors : l.Mirrors st) {file : Text} {loaded : Loaded}
    (here : l.cache.lookup file = some loaded) (playable : loaded.failure = none)
    (module scene : Text) :
    st.Answers (some ⟨file, module, scene⟩) (loaded.script.find module scene) := by
  have path : loaded.script.path = file := by
    obtain ⟨text, -, rfl⟩ := mirrors.kept.of_lookup here
    rfl
  have declared := mirrors.scene?_eq here playable module scene
  cases result : loaded.script.find module scene with
  | ok found =>
    obtain ⟨address, inScript, inModule⟩ := Script.find_eq_ok_iff.mp result
    rw [path] at address
    refine ⟨by rw [address], ?_⟩
    rw [address, declared, inScript, Option.bind_some, inModule]
  | error f =>
    simp only [Story.Answers, Option.bind_some, declared]
    cases inScript : loaded.script.module? module with
    | none => rfl
    | some m =>
      cases inModule : m.scene? scene with
      | none => rw [Option.bind_some, inModule]
      | some sc => simp [Script.find, inScript, inModule] at result

theorem resolve_answers (mirrors : l.Mirrors st) (serves : h.Serves st) (a : Address) (w : σ) :
    st.Answers (st.locate? a) (l.resolve h.read a w).result := by
  cases loading : (l.load h.read a.file w).result with
  | error f =>
    have failed : (l.resolve h.read a w).result = .error f := by
      simp [resolve, loading, bind, Except.bind]
    rw [failed]
    rcases load_unread _ _ _ _ loading with
      ⟨cause, canonical, -⟩ | ⟨key, cause, canonical, unread, -⟩
    · rw [mirrors.directory] at canonical
      simp [Story.Answers, Story.locate?, canonical]
    · rw [mirrors.directory] at canonical
      rw [serves.reads] at unread
      simp [Story.Answers, Story.locate?, canonical, Story.scene?, unread]
  | ok loaded =>
    obtain ⟨key, canonical, stored⟩ := load_lookup _ _ _ _ loading
    rw [mirrors.directory] at canonical
    have located : st.locate? a = some ⟨key, a.module, a.scene⟩ := by
      simp [Story.locate?, canonical]
    have loadedMirrors := mirrors.load serves a.file w
    cases failure : loaded.failure with
    | none =>
      have result : (l.resolve h.read a w).result = loaded.script.find a.module a.scene := by
        simp [resolve, loading, Loaded.playable, failure, bind, Except.bind]
      rw [result, located]
      exact loadedMirrors.find_answers stored failure a.module a.scene
    | some f =>
      have failed : (l.resolve h.read a w).result = .error f := by
        simp [resolve, loading, Loaded.playable, failure, bind, Except.bind]
      obtain ⟨text, read, rfl⟩ := loadedMirrors.kept.of_lookup stored
      rw [failed, located]
      simp [Story.Answers, Story.scene?, read, failure]

theorem lookupFrom_answers (mirrors : l.Mirrors st) {origin : Address}
    (plays : l.Plays origin.file) (module : Option Text) (scene : Text) :
    st.Answers (st.target? origin (.sameFile module scene)) (l.lookupFrom origin module scene) := by
  obtain ⟨loaded, here, playable⟩ := plays
  have target : st.target? origin (.sameFile module scene) =
      some ⟨origin.file, module.getD origin.module, scene⟩ := by
    cases module with
    | none => rfl
    | some m => rfl
  rw [lookupFrom_eq_find here playable, target]
  exact mirrors.find_answers here playable _ scene

theorem follow_answers (mirrors : l.Mirrors st) (serves : h.Serves st) {origin : Address}
    (plays : l.Plays origin.file) (target : Target) (w : σ) :
    st.Answers (st.target? origin target) (l.follow h.read origin target w).result := by
  cases target with
  | sameFile module scene => exact mirrors.lookupFrom_answers plays module scene
  | otherFile path module scene => exact mirrors.resolve_answers serves _ w

/-- An offer is broken exactly if its branch does not connect. -/
theorem brokenOffer?_eq_none (mirrors : l.Mirrors st) {origin : Address}
    (plays : l.Plays origin.file) (offers : List Offer) :
    l.brokenOffer? origin offers = none ↔
      (offers.map Offer.branch).all (st.connects origin) = true := by
  induction offers with
  | nil => simp [brokenOffer?]
  | cons o rest ih =>
    simp only [brokenOffer?, List.map_cons, List.all_cons, Bool.and_eq_true]
    cases target : o.branch.target with
    | otherFile path module scene => simpa [Story.connects, target] using ih
    | sameFile module scene =>
      have connects : st.connects origin o.branch =
          ((st.target? origin (.sameFile module scene)).bind st.scene?).isSome := by
        simp [Story.connects, target]
      have answers := mirrors.lookupFrom_answers plays module scene
      cases result : l.lookupFrom origin module scene with
      | error f =>
        rw [result] at answers
        have missing : (st.target? origin (.sameFile module scene)).bind st.scene? = none := answers
        simp [connects, missing, result]
      | ok found =>
        rw [result] at answers
        obtain ⟨located, here⟩ := answers
        simpa only [connects, located, Option.bind_some, here, Option.isSome_some, true_and, result]
          using ih

end Loader.Mirrors

/-- That a view shows a state of the game. -/
def Game.Shows (st : Story) (v : View) : Game → Prop
  | .waiting items => v.session.stage = .awaitingEntry ∧ v.session.inventory.folded = items
  | .standing here =>
    v.session.stage = .awaitingChoice ∧
      ∃ found, v.session.current = some found ∧ found.address = here.address ∧
        st.scene? here.address = some found.scene ∧ v.loader.Plays here.address.file ∧
        v.session.inventory.folded = here.items ∧
        v.session.offers = numbered (found.scene.allowed here.items)
  | .stranded here =>
    v.session.stage = .ended ∧ v.session.position = here.address ∧
      v.session.inventory.folded = here.items ∧
      ∃ f, v.session.ending = some f ∧ f.code = .deadEnd
  | .lost => v.session.stage = .ended ∧ ∃ f, v.session.ending = some f ∧ f.code ≠ .deadEnd

/-- The simulation: a view shows a state of the game, with a loader that mirrors the story, items
    kept under their folded forms, and no bound on invalid choices. -/
structure Simulates (st : Story) (v : View) (g : Game) : Prop where
  mirrors : v.loader.Mirrors st
  keyed : v.session.inventory.Keyed
  unlimited : v.session.maxRetries ≤ 0
  shows : g.Shows st v

namespace Simulates

variable {σ : Type} {h : Host σ} {st : Story} {v : View} {r : Option Failure × View}

/-- Entering a scene of the story leads to the state that the game enters. -/
theorem entering (serves : h.Serves st) (mirrors : v.loader.Mirrors st)
    (keyed : v.session.inventory.Keyed) (unlimited : v.session.maxRetries ≤ 0) {found : Found}
    (plays : v.loader.Plays found.address.file)
    (here : st.scene? found.address = some found.scene) (entering : v.Entering h found r) :
    Simulates st r.2 (st.enter v.session.inventory.folded found.address) := by
  have arrivedKeyed : (v.session.arrived found).inventory.Keyed :=
    keyed.foldl_apply found.scene.effects
  have items : found.scene.effects.foldl Effect.onItems v.session.inventory.folded =
      (v.session.arrived found).inventory.folded :=
    (keyed.folded_foldl_apply found.scene.effects).symm
  have offers := arrivedKeyed.offers_eq found.scene
  have whole := mirrors.brokenOffer?_eq_none plays
    (found.scene.offers (v.session.arrived found).inventory)
  rw [offers, map_branch_numbered] at whole
  simp only [Story.enter, here, items]
  -- Session and game ask the same two questions of the scene: is anything on offer, and does all of
  -- it lead somewhere.
  cases entering with
  | halted asked => exact absurd asked serves.not_halts
  | unshown refused => exact absurd refused serves.not_refuses
  | deadEnd nothing =>
    rw [offers, numbered_eq_nil] at nothing
    rw [if_pos nothing]
    exact ⟨mirrors, arrivedKeyed, unlimited, rfl, rfl, rfl, found.deadEnd, rfl, rfl⟩
  | @broken b f something missing =>
    rw [offers] at something missing
    rw [if_neg (something ∘ numbered_eq_nil.mpr), if_neg]
    · refine ⟨mirrors, arrivedKeyed, unlimited, rfl, _, rfl, ?_⟩
      rw [Branch.locate, Failure.code_placed]
      rcases Loader.brokenOffer?_code plays missing with code | code
      · simp [code]
      · simp [code]
    · rw [← whole, missing]
      simp
  | awaiting something unbroken =>
    rw [offers] at something unbroken
    rw [if_neg (something ∘ numbered_eq_nil.mpr), if_pos (whole.mp unbroken)]
    exact ⟨mirrors, arrivedKeyed, unlimited, rfl, found, rfl, rfl, here, plays, rfl, offers⟩

theorem lost_of_failed (mirrors : v.loader.Mirrors st) (keyed : v.session.inventory.Keyed)
    (unlimited : v.session.maxRetries ≤ 0) {f : Failure} (code : f.code ≠ .deadEnd)
    {a? : Option Address} {e : Failure} (answers : st.Answers a? (.error e)) (items : Finset Text) :
    Simulates st (v.finish f).2 (st.enter? items a?) := by
  have lost : st.enter? items a? = .lost := by
    cases a? with
    | none => rfl
    | some a =>
      have missing : st.scene? a = none := answers
      simp [Story.enter?, Story.enter, missing]
  rw [lost]
  exact ⟨mirrors, keyed, unlimited, rfl, f, rfl, code⟩

theorem starting (serves : h.Serves st) {entry : Address} {w : σ} {items : Finset Text}
    (before : Simulates st v (.waiting items)) (starting : v.Starting h entry w r) :
    Simulates st r.2 (st.enter? items (st.locate? entry)) := by
  obtain ⟨mirrors, keyed, unlimited, -, rfl⟩ := before
  have answers := mirrors.resolve_answers serves entry (h.halted w).2
  have after : (v.loader.resolve h.read entry (h.halted w).2).loader.Mirrors st :=
    mirrors.load serves entry.file _
  cases starting with
  | halted asked => exact absurd asked serves.not_halts
  | unresolved kept failed =>
    have code := (Loader.resolve_code after.kept failed).ne_deadEnd
    rw [failed] at answers
    rw [kept] at after
    exact lost_of_failed (v := { v.tell [.began entry.text] with loader := _ }) after keyed
      unlimited code answers _
  | entering kept ok rest =>
    have plays := Loader.resolve_plays after.kept ok
    rw [ok] at answers
    rw [kept] at after plays
    rw [answers.1]
    exact entering (v := { v.tell [.began entry.text] with loader := _ }) serves after keyed
      unlimited plays answers.2 rest

theorem position_eq {here : Standing} (simulates : Simulates st v (.standing here)) :
    v.session.position = here.address := by
  obtain ⟨-, found, current, address, -⟩ := simulates.shows
  simpa [Session.position, current] using address

theorem choosing (serves : h.Serves st) {input : Text} {w : σ} {here : Standing}
    (before : Simulates st v (.standing here)) (choosing : v.Choosing h input w r) :
    Simulates st r.2 (st.step (.standing here) (.choose input)) := by
  have position := before.position_eq
  obtain ⟨mirrors, keyed, unlimited, stage, found, current, address, scene, plays, items, offers⟩ :=
    before
  have offered : st.offered here = found.scene.allowed here.items := by
    rw [Story.offered, scene]
  have picks := pick?_branch (found.scene.allowed here.items) input
  rw [← offers, ← offered] at picks
  cases choosing with
  | halted asked => exact absurd asked serves.not_halts
  | @unresolved n offer f l picked kept failed =>
    rw [position] at kept failed
    have answers := mirrors.follow_answers serves plays offer.branch.target (h.halted w).2
    have after := mirrors.follow serves here.address offer.branch.target (h.halted w).2
    have code := (Loader.follow_code after.kept plays failed).ne_deadEnd
    rw [failed] at answers
    rw [kept] at after
    rw [picked, Option.map_some] at picks
    simp only [Story.step, ← picks]
    refine lost_of_failed (v := { v.choice n offer with loader := l }) after keyed unlimited ?_
      answers _
    rwa [Branch.locate, Failure.code_placed]
  | @entering n offer next l r picked kept ok rest =>
    rw [position] at kept ok
    have answers := mirrors.follow_answers serves plays offer.branch.target (h.halted w).2
    have after := mirrors.follow serves here.address offer.branch.target (h.halted w).2
    have afterPlays := Loader.follow_plays after.kept plays ok
    rw [ok] at answers
    rw [kept] at after afterPlays
    rw [picked, Option.map_some] at picks
    simp only [Story.step, ← picks, answers.1, Story.enter?]
    rw [← items]
    exact entering (v := { v.choice n offer with loader := l }) serves after keyed unlimited
      afterPlays answers.2 rest
  | unshown unpicked refused => exact absurd refused serves.not_refuses
  -- Without a bound on invalid choices the session never ends for too many of them.
  | exhausted unpicked many => exact absurd many.1 (by omega)
  | rejected unpicked few =>
    rw [unpicked, Option.map_none] at picks
    simp only [Story.step, ← picks]
    exact ⟨mirrors, keyed, unlimited, stage, found, current, address, scene, plays, items, offers⟩

/-- One move of the session is one step of the game. -/
theorem make (serves : h.Serves st) {p : Play σ} {g : Game} (before : Simulates st p.view g)
    (m : Move) : Simulates st (p.make h m).2.view (st.step g m) := by
  -- A move that the session does not wait for is refused and leaves the play as it was.
  have refusedStart (entry : Address) (started : p.session.stage ≠ .awaitingEntry) :
      Simulates st (p.make h (.start entry)).2.view g := by
    rw [Play.make, Play.start_of_ne h entry started]
    exact before
  have refusedChoice (input : Text) (busy : p.session.stage ≠ .awaitingChoice) :
      Simulates st (p.make h (.choose input)).2.view g := by
    rw [Play.make, Play.choose_of_ne h input busy]
    exact before
  have stage : p.view.session.stage = p.session.stage := rfl
  cases g with
  | waiting items =>
    obtain ⟨fresh, -⟩ := before.shows
    cases m with
    | start entry => exact starting serves before (Play.start_starting h entry fresh)
    | choose input => exact refusedChoice input (by simp [← stage, fresh])
  | standing here =>
    obtain ⟨waiting, -⟩ := before.shows
    cases m with
    | start entry => exact refusedStart entry (by simp [← stage, waiting])
    | choose input => exact choosing serves before (Play.choose_choosing h input waiting)
  | stranded here =>
    obtain ⟨ended, -⟩ := before.shows
    cases m with
    | start entry => exact refusedStart entry (by simp [← stage, ended])
    | choose input => exact refusedChoice input (by simp [← stage, ended])
  | lost =>
    obtain ⟨ended, -⟩ := before.shows
    cases m with
    | start entry => exact refusedStart entry (by simp [← stage, ended])
    | choose input => exact refusedChoice input (by simp [← stage, ended])

/-- A session goes through the states of the game, however many moves are made. -/
theorem makeAll (serves : h.Serves st) {p : Play σ} {g : Game} (before : Simulates st p.view g)
    (moves : List Move) : Simulates st (p.makeAll h moves).view (st.play g moves) := by
  induction moves generalizing p g with
  | nil => exact before
  | cons m rest ih => exact ih (before.make serves m)

theorem initial {l : Loader} (mirrors : l.Mirrors st) (id : Text) (items : List Text) (w : σ) :
    Simulates st (Play.view ⟨{ id, inventory := .ofItems items }, l, w, []⟩)
      (.waiting (items.map Text.fold).toFinset) :=
  ⟨mirrors, Inventory.keyed_ofItems items, Int.le_refl 0, rfl, Inventory.folded_ofItems items⟩

theorem awaitingChoice_iff {g : Game} (simulates : Simulates st v g) :
    v.session.stage = .awaitingChoice ↔ ∃ here, g = .standing here := by
  have shows := simulates.shows
  cases g with
  | waiting items => simp [shows.1]
  | standing here => simp [shows.1]
  | stranded here => simp [shows.1]
  | lost => simp [shows.1]

theorem choices_eq {here : Standing} (simulates : Simulates st v (.standing here)) :
    v.session.choices = st.visible here := by
  obtain ⟨-, found, -, -, scene, -, -, offers⟩ := simulates.shows
  rw [Session.choices, offers, map_choice_numbered, Story.visible, Story.offered, scene]

theorem deadEnd_iff {g : Game} (simulates : Simulates st v g) :
    (v.session.stage = .ended ∧ ∃ f, v.session.ending = some f ∧ f.code = .deadEnd) ↔
      ∃ here, g = .stranded here := by
  have shows := simulates.shows
  cases g with
  | waiting items => simp [shows.1]
  | standing here => simp [shows.1]
  | stranded here =>
    obtain ⟨ended, -, -, f, ending, code⟩ := shows
    simp [ended, ending, code]
  | lost =>
    obtain ⟨ended, f, ending, code⟩ := shows
    simp [ended, ending, code]

theorem lost_iff {g : Game} (simulates : Simulates st v g) :
    (v.session.stage = .ended ∧ ∃ f, v.session.ending = some f ∧ f.code ≠ .deadEnd) ↔
      g = .lost := by
  have shows := simulates.shows
  cases g with
  | waiting items => simp [shows.1]
  | standing here => simp [shows.1]
  | stranded here =>
    obtain ⟨ended, -, -, f, ending, code⟩ := shows
    simp [ended, ending, code]
  | lost =>
    obtain ⟨ended, f, ending, code⟩ := shows
    simp [ended, ending, code]

end Simulates

/-- A session of a story plays the game of that story. While the player is to choose, position,
    items held and choices shown are those of the game; the session ends in a dead end exactly if
    the game enters a scene that offers nothing, and otherwise exactly if the game is lost. -/
theorem session_refines_game {σ : Type} {h : Host σ} {st : Story} {l : Loader}
    (serves : h.Serves st) (mirrors : l.Mirrors st) (id : Text) (items : List Text) (w : σ)
    (moves : List Move) :
    let start : Play σ := ⟨{ id, maxRetries := 0, inventory := .ofItems items }, l, w, []⟩
    let s := (start.makeAll h moves).session
    let g := st.play (.waiting (items.map Text.fold).toFinset) moves
    (s.stage = .awaitingChoice ↔ ∃ here, g = .standing here) ∧
    (∀ here, g = .standing here →
      s.position = here.address ∧ s.inventory.folded = here.items ∧ s.choices = st.visible here) ∧
    ((s.stage = .ended ∧ ∃ f, s.ending = some f ∧ f.code = .deadEnd) ↔
      ∃ here, g = .stranded here) ∧
    (∀ here, g = .stranded here →
      s.position = here.address ∧ s.inventory.folded = here.items) ∧
    ((s.stage = .ended ∧ ∃ f, s.ending = some f ∧ f.code ≠ .deadEnd) ↔ g = .lost) := by
  intro start s g
  have simulates : Simulates st (start.makeAll h moves).view g :=
    (Simulates.initial mirrors id items w).makeAll serves moves
  refine ⟨simulates.awaitingChoice_iff, fun here standing => ?_, simulates.deadEnd_iff,
    fun here stranded => ?_, simulates.lost_iff⟩
  · rw [standing] at simulates
    obtain ⟨-, found, -, -, -, -, held, -⟩ := simulates.shows
    exact ⟨simulates.position_eq, held, simulates.choices_eq⟩
  · rw [stranded] at simulates
    obtain ⟨-, position, held, -⟩ := simulates.shows
    exact ⟨position, held⟩

/-- The key is found, an input that picks nothing changes nothing, and the door leads nowhere. -/
theorem session_refines_game_vault :
    let start : Play Unit :=
      ⟨{ id := "v", inventory := .ofItems ["Cup"] }, { directory := "/" }, (), []⟩
    let found := (start.makeAll Story.vault.host [.start ⟨"a", "m", "s"⟩, .choose "7"]).session
    let opened :=
      (start.makeAll Story.vault.host [.start ⟨"a", "m", "s"⟩, .choose "7", .choose " 1"]).session
    (found.stage = .awaitingChoice ∧ found.position = ⟨"/a", "m", "s"⟩ ∧
      found.inventory.folded = {Text.ofString "key", Text.ofString "cup"} ∧
      found.choices = [⟨1, "open"⟩]) ∧
    opened.stage = .ended ∧ opened.position = ⟨"/a", "m", "t"⟩ ∧
      opened.inventory.folded = {Text.ofString "cup"} := by
  intro start found opened
  have serves := Story.vault.host_serves
  have mirrors : ({ directory := "/" } : Loader).Mirrors Story.vault :=
    ⟨rfl, Loader.readFrom_empty _ _⟩
  have standing : Story.vault.play (.waiting ([Text.ofString "Cup"].map Text.fold).toFinset)
      [.start ⟨"a", "m", "s"⟩, .choose "7"] =
      .standing ⟨⟨"/a", "m", "s"⟩, {Text.ofString "key", Text.ofString "cup"}⟩ := by
    decide +kernel
  have stranded : Story.vault.play (.waiting ([Text.ofString "Cup"].map Text.fold).toFinset)
      [.start ⟨"a", "m", "s"⟩, .choose "7", .choose " 1"] =
      .stranded ⟨⟨"/a", "m", "t"⟩, {Text.ofString "cup"}⟩ := by
    decide +kernel
  have offered : Story.vault.visible
      ⟨⟨"/a", "m", "s"⟩, {Text.ofString "key", Text.ofString "cup"}⟩ = [⟨1, "open"⟩] := by
    decide +kernel
  obtain ⟨waits, shows, -⟩ :=
    session_refines_game serves mirrors "v" ["Cup"] () [.start ⟨"a", "m", "s"⟩, .choose "7"]
  obtain ⟨-, -, ends, arrives, -⟩ := session_refines_game serves mirrors "v" ["Cup"] ()
    [.start ⟨"a", "m", "s"⟩, .choose "7", .choose " 1"]
  obtain ⟨position, held, choices⟩ := shows _ standing
  exact ⟨⟨waits.mpr ⟨_, standing⟩, position, held, choices.trans offered⟩,
    (ends.mpr ⟨_, stranded⟩).1, arrives _ stranded⟩

end Gamebook
