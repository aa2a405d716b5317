import Gamebook.Proofs.Session.Commit

/-! # What is offered can be taken

A session offers a branch to a scene of the same file only after it has found that scene, in a file
that its loader keeps. Loaders forget nothing, so the scene is there when the branch is taken,
whatever others have loaded meanwhile and whatever has become of the file. It follows that no session
ever looks for a scene in a file that is not kept or cannot be played. To say so, calls are made on a
session whose crew looks scenes up in another way (`Play.performBy`): what it answers about such files
makes no difference.
-/

namespace Gamebook

namespace Loader

variable {l after : Loader} {origin : Address} {offers : List Offer}

/-- That every offer that leads to a scene of the same file leads to one that is found. -/
def Connects (l : Loader) (origin : Address) (offers : List Offer) : Prop :=
  ∀ o ∈ offers, ∀ module scene, o.branch.target = .sameFile module scene →
    ∃ found, l.lookupFrom origin module scene = .ok found

theorem Connects.mono (connects : l.Connects origin offers) (more : l.Extends after) :
    after.Connects origin offers := by
  intro o member module scene target
  obtain ⟨found, ok⟩ := connects o member module scene target
  exact ⟨found, lookup_mono more ok⟩

theorem connects_of_brokenOffer? (whole : l.brokenOffer? origin offers = none) :
    l.Connects origin offers := by
  induction offers with
  | nil =>
    intro o member
    cases member
  | cons first rest ih =>
    simp only [brokenOffer?] at whole
    have connects : l.Connects origin rest := by
      split at whole
      · exact ih whole
      · split at whole
        · cases whole
        · exact ih whole
    intro o member module scene target
    rcases List.mem_cons.mp member with rfl | later
    · simp only [target] at whole
      split at whole
      · cases whole
      · next found ok => exact ⟨found, ok⟩
    · exact connects o later module scene target

end Loader

/-! ## Offers stay connected -/

namespace View

variable {σ : Type} {h : Host σ} {v : View} {r : Option Failure × View}

/-- That what a view offers can be taken. -/
def Passable (v : View) : Prop :=
  v.session.stage = .awaitingChoice → v.loader.Connects v.session.position v.session.offers

theorem passable_finish (f : Failure) : (v.finish f).2.Passable := by
  intro waiting
  cases waiting

theorem Entering.passable {found : Found} (entering : v.Entering h found r) : r.2.Passable := by
  cases entering with
  | awaiting something whole => exact fun _ => Loader.connects_of_brokenOffer? whole
  | _ => exact passable_finish _

theorem Starting.passable {entry : Address} {w : σ} (starting : v.Starting h entry w r) :
    r.2.Passable := by
  cases starting with
  | entering loader ok rest => exact rest.passable
  | _ => exact passable_finish _

theorem Choosing.passable {input : Text} {w : σ} (choosing : v.Choosing h input w r)
    (before : v.Passable) : r.2.Passable := by
  cases choosing with
  | entering picked loader ok rest => exact rest.passable
  | rejected unpicked few => exact before
  | _ => exact passable_finish _

end View

namespace Play

variable {σ : Type} {p : Play σ}

/-- Moves and endings leave nothing on offer that cannot be taken. -/
theorem kept_passable : Kept fun p : Play σ => p.view.Passable where
  make {p} h m before := by
    by_cases expected : p.session.Expects m
    · cases m with
      | start entry => exact (start_starting h entry expected).passable
      | choose input => exact (choose_choosing h input expected).passable before
    · obtain ⟨f, same, -⟩ := make_of_not_expects h expected
      rw [same]
      exact before
  finish {p} f _ _ := by
    have ended : (p.finish f).2.view = (p.view.finish f).2 := congrArg Prod.snd (seen_finish p f)
    rw [ended]
    exact View.passable_finish f
  world _ before := before

theorem Reachable.passable (reachable : p.Reachable) : p.view.Passable := by
  induction reachable with
  | fresh id maxRetries inventory w kept =>
    intro waiting
    cases waiting
  | make before h m ih => exact kept_passable.make h m ih
  | run before h player entry ih => exact kept_passable.run h player entry ih
  | cancel before ih => exact kept_passable.cancel ih
  | meanwhile before more kept w ih => exact fun waiting => (ih waiting).mono more

/-! ## Scenes of the same file are entered -/

/-- That a call has entered a scene: its effects have been applied, and it is told of. -/
structure Enters (p q : Play σ) (found : Found) : Prop where
  current : q.session.current = some found
  inventory : q.session.inventory = found.scene.effects.foldl Inventory.apply p.session.inventory
  told : ∃ before, p.story ++ before ++ found.arrival p.session.inventory <+: q.story

/-- A scene is entered if the host lets the session go on, whatever comes then. -/
theorem enter_enters {h : Host σ} (live : (h.halted p.world).1 = none) (found : Found) :
    p.Enters (p.enter h found).2 found := by
  -- After this question the host is not asked again.
  let steady : Host σ := { h with halted := fun w => (none, w) }
  have same : p.enter h found = (p.asked h).enter steady found := by
    simp only [enter, unlessHalted, live]
    rfl
  have entering : p.view.Entering steady found (seen (p.enter h found)) := by
    rw [same]
    exact enter_entering steady found (p.asked h)
  have told : p.story ++ [] ++ found.arrival p.session.inventory =
      (p.view.arrive found).story := by
    rw [List.append_nil]
    rfl
  suffices entered : ∀ r : Option Failure × View, p.view.Entering steady found r →
      r.2.session.current = some found ∧
        r.2.session.inventory =
          found.scene.effects.foldl Inventory.apply p.session.inventory ∧
        (p.view.arrive found).story <+: r.2.story by
    obtain ⟨current, inventory, story⟩ := entered _ entering
    exact ⟨current, inventory, [], told ▸ story⟩
  intro r entering
  cases entering with
  | halted stopped =>
    obtain ⟨w, stops⟩ := stopped
    cases stops
  | awaiting something whole => exact ⟨rfl, rfl, List.prefix_refl _⟩
  | _ => exact ⟨rfl, rfl, List.prefix_append ..⟩

/-- Taking an offer enters the scene that it leads to, if that is found in the same file and the host
    lets the session go on. -/
theorem take_enters {h : Host σ} (live : (h.halted p.world).1 = none) {n : Nat} {offer : Offer}
    {module : Option Text} {scene : Text} (target : offer.branch.target = .sameFile module scene)
    {found : Found} (ok : p.loader.lookupFrom p.session.position module scene = .ok found) :
    p.Enters (p.take h n offer).2 found := by
  let away := p.leaving n offer
  let f : Fetched σ Found := { result := .ok found, loader := p.loader, world := p.world }
  have same : p.take h n offer = (away.fetched f).enter h found := by
    have follow : away.loader.follow h.read p.session.position offer.branch.target away.world = f := by
      rw [target, Loader.follow, show away.loader = p.loader from rfl, ok]
      rfl
    change away.pursue h (away.loader.follow h.read p.session.position offer.branch.target
      away.world) (offer.branch.locate p.session.position.file) = _
    rw [follow]
    rfl
  obtain ⟨current, inventory, before, story⟩ := enter_enters (p := away.fetched f) live found
  have told : (away.fetched f).story = (p.view.choice n offer).story := by
    have view : (away.fetched f).view.story = (p.decided n offer).view.story := by
      rw [view_fetched]
      rfl
    exact view.trans (congrArg View.story (view_decided p n offer))
  rw [same]
  refine ⟨current, inventory, .happened .choice p.session.eventAddress
    (Text.ofNat n ++ ": " ++ offer.choice.label) :: before, ?_⟩
  have carried : (away.fetched f).session.inventory = p.session.inventory := rfl
  rw [told, carried] at story
  simpa [View.choice, View.tell, view] using story

end Play

/-! ## Another way to look scenes up -/

/-- That scenes are looked up as a loader does it, in the files that it keeps and that can be
    played. -/
def Lookup.Agrees (look : Lookup) : Prop :=
  ∀ l a, l.Plays a.file → look l a = l.lookup a

namespace Loader

variable {σ : Type} {look : Lookup} (agrees : look.Agrees) {l : Loader} {origin : Address}
  (plays : l.Plays origin.file)
include agrees plays

theorem lookupFrom_agrees (module : Option Text) (scene : Text) :
    l.lookupFrom origin module scene look = l.lookupFrom origin module scene :=
  agrees l ⟨origin.file, module.getD origin.module, scene⟩ plays

theorem brokenOffer?_agrees (offers : List Offer) :
    l.brokenOffer? origin offers look = l.brokenOffer? origin offers := by
  induction offers with
  | nil => rfl
  | cons o rest ih =>
    unfold brokenOffer?
    rw [ih]
    split
    · rfl
    · rw [lookupFrom_agrees agrees plays]

theorem follow_agrees (read : ReadFile σ) (target : Target) (w : σ) :
    l.follow read origin target w look = l.follow read origin target w := by
  cases target with
  | otherFile path module scene => rfl
  | sameFile module scene => rw [follow, follow, lookupFrom_agrees agrees plays]

end Loader

namespace Play

variable {σ : Type}

/-- A call on a session whose crew looks scenes up in another way. -/
def performBy (look : Lookup) (h : Host σ) (p : Play σ) (d : Deed σ) : Option Failure × Play σ :=
  p.perform (c := .chronicle look) h d

variable {look : Lookup} {h : Host σ} {p : Play σ}

/-! What is written down does not depend on how scenes are looked up. -/

theorem unlessHalted_agrees {next next' : Play σ → Option Failure × Play σ}
    (same : next (p.asked h) = next' (p.asked h)) :
    @unlessHalted σ _ (.chronicle look) h p next = p.unlessHalted h next' := by
  unfold unlessHalted
  dsimp only
  split
  · rfl
  · exact same

theorem shown_agrees {result : Option Failure × σ} {next next' : Play σ → Option Failure × Play σ}
    (same : next { p with world := result.2 } = next' { p with world := result.2 }) :
    @shown σ _ (.chronicle look) p result next = p.shown result next' := by
  unfold shown
  dsimp only
  split
  · rfl
  · exact same

theorem arrive_loader (found : Found) (inventory : Inventory) (changed : List Effect)
    (p : Play σ) : (p.arrive found inventory changed).loader = p.loader := by
  have told : ∀ (changed : List Effect) (p : Play σ),
      (changed.foldl (fun p e => p.happen .inventory e.text) p).loader = p.loader := by
    intro changed
    induction changed with
    | nil => exact fun p => rfl
    | cons e rest ih => exact fun p => ih (p.happen .inventory e.text)
  exact told changed _

variable (agrees : look.Agrees)
include agrees

theorem offerBranches_agrees {found : Found} (plays : p.loader.Plays found.address.file) :
    @offerBranches σ _ (.chronicle look) h found p = p.offerBranches h found := by
  unfold offerBranches
  dsimp only
  rw [show @Crew.look (List Event) (.chronicle look) = look from rfl, Loader.brokenOffer?_agrees agrees plays]
  rfl

theorem enter_agrees {found : Found} (plays : p.loader.Plays found.address.file) :
    @enter σ _ (.chronicle look) h found p = p.enter h found := by
  have arrived : ∀ q : Play σ, q.loader = p.loader →
      @offerBranches σ _ (.chronicle look) h found q = q.offerBranches h found := by
    intro q loader
    exact offerBranches_agrees agrees (loader ▸ plays)
  unfold enter
  refine unlessHalted_agrees ?_
  unfold receive
  dsimp only
  cases found.scene.flavortext with
  | some lines => exact shown_agrees (arrived _ (arrive_loader ..))
  | none => exact arrived _ (arrive_loader ..)

theorem pursue_agrees {f : Fetched σ Found} (locate : Failure → Failure)
    (plays : ∀ found, f.result = .ok found → f.loader.Plays found.address.file) :
    @pursue σ _ (.chronicle look) h f locate p = p.pursue h f locate := by
  unfold pursue
  cases result : f.result with
  | error failure => rfl
  | ok found => exact enter_agrees (p := p.fetched f) agrees (plays found result)

theorem start_agrees (kept : p.loader.ReadFrom fun _ _ => True) (entry : Address) :
    @start σ _ (.chronicle look) h entry p = p.start h entry := by
  unfold start
  split
  · rfl
  · refine unlessHalted_agrees ?_
    have after (w : σ) : (p.loader.resolve h.read entry w).loader.ReadFrom fun _ _ => True :=
      kept.load h.read entry.file w fun _ _ _ _ => trivial
    exact pursue_agrees agrees id fun found ok => Loader.resolve_plays (after _) ok

theorem take_agrees (kept : p.loader.ReadFrom fun _ _ => True)
    (plays : p.loader.Plays p.session.position.file) (n : Nat) (offer : Offer) :
    @take σ _ (.chronicle look) h n offer p = p.take h n offer := by
  have follows := Loader.follow_agrees agrees plays h.read offer.branch.target p.world
  have asked : @take σ _ (.chronicle look) h n offer p =
      @pursue σ _ (.chronicle look) h
        (p.loader.follow h.read p.session.position offer.branch.target p.world look)
        (offer.branch.locate p.session.position.file) (p.leaving n offer) := rfl
  rw [asked, follows]
  exact pursue_agrees agrees _ fun found ok =>
    Loader.follow_plays (kept.follow fun _ _ _ _ => trivial) plays ok

theorem choose_agrees (sound : p.view.Sound) (input : Text) :
    @choose σ _ (.chronicle look) h input p = p.choose h input := by
  unfold choose
  split
  · rfl
  · next waiting =>
    refine unlessHalted_agrees ?_
    have offers : (p.asked h).session.offers = p.session.offers := rfl
    rw [offers]
    cases pick? p.session.offers input with
    | none => rfl
    | some choice =>
      exact take_agrees (p := p.asked h) agrees sound.grounds.kept
        (sound.plays_position (not_not.mp waiting)) choice.1 choice.2

theorem attend_agrees (sound : p.view.Sound) (last : Nat → σ → Failure × σ)
    (answers : List (Answer σ)) :
    @attend σ _ (.chronicle look) h last answers p = p.attend h last answers := by
  -- Every answer is given to a session in order, and leaves it so.
  induction answers generalizing p with
  | nil => rfl
  | cons answer rest ih =>
    unfold attend
    split
    · rfl
    · rcases answer p.session.offers.length p.world with ⟨cause | input, w⟩
      · rfl
      · have same := choose_agrees (p := { p with world := w }) (h := h) agrees sound input
        have after := kept_sound.make h (.choose input) (kept_sound.world w sound)
        rw [make] at after
        dsimp only
        rw [same]
        generalize Play.choose h input { p with world := w } = chosen at after
        obtain ⟨- | failure, q⟩ := chosen
        · exact ih after
        · exact if_congr .rfl rfl (ih after)

theorem run_agrees (sound : p.view.Sound) (player : Option (Player σ)) (entry : Address) :
    @run σ _ (.chronicle look) h player entry p = p.run h player entry := by
  have started := kept_sound.make h (.start entry) sound
  rw [make] at started
  unfold run
  cases player with
  | none => rfl
  | some player =>
    dsimp only
    rw [start_agrees agrees sound.grounds.kept]
    rcases answer : p.start h entry with ⟨failure | _, after⟩
    · rw [answer] at started
      exact attend_agrees agrees started _ _
    · rfl

/-- A session in order never looks for a scene in a file that is not kept or cannot be played. -/
theorem performBy_eq (sound : p.view.Sound) (d : Deed σ) :
    p.performBy look h d = p.perform h d := by
  cases d with
  | move m =>
    cases m with
    | start entry => exact start_agrees agrees sound.grounds.kept entry
    | choose input => exact choose_agrees agrees sound input
  | run player entry => exact run_agrees agrees sound player entry
  | cancel => rfl
  | meanwhile change => rfl

end Play

/-- Whatever has happened to a session that waits for a choice, a branch on offer to a scene of the
    same file leads to the scene that the file was found to declare, without anything being read,
    and choosing it enters that scene if the host lets the session go on. No call on a session
    depends on how a loader answers for a file that it does not keep or that cannot be played. -/
theorem local_offers_can_be_taken {σ : Type} {p : Play σ} (reachable : p.Reachable) :
    (p.session.stage = .awaitingChoice → ∃ here loaded, p.session.current = some here ∧
      p.loader.cache.lookup here.address.file = some loaded ∧ loaded.failure = none ∧
      ∀ offer ∈ p.session.offers, ∀ module scene, offer.branch.target = .sameFile module scene →
        ∃ found,
          found.address = ⟨here.address.file, module.getD here.address.module, scene⟩ ∧
          loaded.script.find (module.getD here.address.module) scene = .ok found ∧
          (∀ (read : ReadFile σ) w, p.loader.follow read p.session.position offer.branch.target w =
            { result := .ok found, loader := p.loader, world := w }) ∧
          ∀ (h : Host σ) input n, (h.halted p.world).1 = none →
            (h.halted (h.halted p.world).2).1 = none →
            pick? p.session.offers input = some (n, offer) →
              p.Enters (p.choose h input).2 found) ∧
    ∀ look : Lookup, look.Agrees → ∀ h d, p.performBy look h d = p.perform h d := by
  have sound := reachable.sound
  refine ⟨fun waiting => ?_, fun look agrees h d => Play.performBy_eq agrees sound d⟩
  have settled := sound.settled
  rw [Session.Settled, show p.view.session.stage = .awaitingChoice from waiting] at settled
  obtain ⟨-, -, ⟨here, current, -⟩, -⟩ := settled
  have current : p.session.current = some here := current
  have position : p.session.position = here.address := by rw [Session.position, current]
  obtain ⟨loaded, stored, playable⟩ := sound.grounds.plays here current
  have stored : p.loader.cache.lookup here.address.file = some loaded := stored
  refine ⟨here, loaded, current, stored, playable, ?_⟩
  intro offer member module scene target
  obtain ⟨found, ok⟩ : ∃ found, p.loader.lookupFrom p.session.position module scene = .ok found :=
    reachable.passable waiting offer member module scene target
  have declared : loaded.script.find (module.getD here.address.module) scene = .ok found := by
    rw [← Loader.lookupFrom_eq_find stored playable, ← position]
    exact ok
  have path : loaded.script.path = here.address.file := by
    obtain ⟨text, -, rfl⟩ := sound.grounds.kept.of_lookup stored
    rfl
  refine ⟨found, ?_, declared, ?_, ?_⟩
  · rw [(Script.find_eq_ok_iff.mp declared).1, path]
  · intro read w
    rw [target, Loader.follow, ok]
  · intro h input n live still picked
    obtain ⟨entered, inventory, told⟩ :=
      Play.take_enters (p := p.asked h) (n := n) still target ok
    rw [Play.choose_of_live waiting live, picked]
    exact ⟨entered, inventory, told⟩

/-- The door behind which a scene of the same file lies can be taken when no file can be read any more
    and another session has loaded a broken one. -/
theorem local_offers_can_be_taken_vanished :
    let waiting := (Play.make Story.vault.host ⟨{ id := "v" }, { directory := "/" }, (), []⟩
      (.start ⟨"a", "m", "s"⟩)).2
    let p : Play Unit :=
      { waiting with loader := waiting.loader.keep "/b" (.ofText "/b" "@module") }
    let gone : Host Unit := { Story.vault.host with read := fun _ w => (.error [], w) }
    let look : Lookup := fun l a =>
      if (l.cache.lookup a.file).any (·.failure.isNone) then l.lookup a else .error []
    p.Reachable ∧ p.session.stage = .awaitingChoice ∧
      (∃ offer ∈ p.session.offers, offer.branch.target = .sameFile none "t") ∧
      (∃ found, found.address = ⟨"/a", "m", "t"⟩ ∧ p.Enters (p.choose gone "1").2 found) ∧
      look.Agrees ∧
      p.performBy look gone (.move (.choose "1")) = p.perform gone (.move (.choose "1")) := by
  intro waiting p gone look
  have before : waiting.Reachable :=
    (Play.Reachable.fresh "v" 0 {} () (Loader.readFrom_empty _ "/")).make _ _
  have reachable : p.Reachable := by
    refine before.meanwhile (l := p.loader) ⟨rfl, List.prefix_append ..⟩ ?_ ()
    intro entry member
    rcases List.mem_append.mp member with old | new
    · exact before.sound.grounds.kept entry old
    · rw [List.mem_singleton.mp new]
      exact ⟨_, trivial, rfl⟩
  obtain ⟨stage, here, targets⟩ : p.session.stage = .awaitingChoice ∧
      p.session.current.map (·.address) = some ⟨"/a", "m", "s"⟩ ∧
      p.session.offers.map (·.branch.target) = [.sameFile none "t"] := by
    decide +kernel
  have agrees : look.Agrees := by
    rintro l a ⟨loaded, here, playable⟩
    simp [look, here, playable]
  obtain ⟨offer, offers, target⟩ := List.map_eq_singleton_iff.mp targets
  have member : offer ∈ p.session.offers := by simp [offers]
  have picked : pick? p.session.offers "1" = some (1, offer) := by
    rw [offers]
    rfl
  obtain ⟨taken, same⟩ := local_offers_can_be_taken reachable
  obtain ⟨scene, loaded, current, -, -, each⟩ := taken stage
  obtain ⟨found, address, -, -, enters⟩ := each offer member none "t" target
  have origin : scene.address = ⟨"/a", "m", "s"⟩ := by simpa [current] using here
  rw [origin] at address
  exact ⟨reachable, stage, ⟨offer, member, target⟩,
    ⟨found, address, enters gone "1" 1 rfl rfl picked⟩, agrees, same look agrees gone _⟩

end Gamebook
