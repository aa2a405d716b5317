import Gamebook.Proofs.Script.Items
import Gamebook.Proofs.Session.Lazy

/-! # The spelling of items does not matter

A story is retold if its files are written otherwise but have the same core: items may be spelled
otherwise, and everything may stand elsewhere. A session of the one story and a session of the other
are played side by side, with hosts that behave alike. They stay `Alike` in every step: all that may
differ are the spellings that inventories remember, what transcripts are told of items, and the
places that failures name.
-/

namespace Gamebook

variable {σ τ : Type} {W : σ → τ → Prop}

/-- That two failures are the same but for the place of the outermost problem. If a file cannot be
    played, only the codes have to be the same. -/
inductive Failure.Alike : Failure → Failure → Prop where
  | placed (r : Report) (place : Place) (causes : Failure) :
    Alike (.report r :: causes) (.report { r with place } :: causes)
  | unplayable {r s : Report} (code : r.problem.code = s.problem.code)
      (fault : r.problem.code = .lexical ∨ r.problem.code = .structural) :
    Alike [.report r] [.report s]

namespace Failure

theorem alike_because (p : Problem) (cause : Failure) : (because p cause).Alike (because p cause) :=
  .placed _ {} cause

theorem alike_ofReport (r : Report) : (ofReport r).Alike (ofReport r) :=
  .placed r r.place []

theorem placed_report (r : Report) (causes : Failure) (place : Place) :
    ∃ there, placed place (.report r :: causes) = .report { r with place := there } :: causes := by
  by_cases unknown : r.place.isUnknown
  · exact ⟨place, by simp [placed, Link.report?, unknown]⟩
  · exact ⟨r.place, by simp [placed, Link.report?, unknown]⟩

variable {f g : Failure}

theorem Alike.code (alike : f.Alike g) : f.code = g.code := by
  cases alike with
  | placed r place causes => rfl
  | unplayable code fault => exact code

theorem Alike.located (alike : f.Alike g) (here there : Place) :
    (f.placed here).Alike (g.placed there) := by
  cases alike with
  | placed r place causes =>
    obtain ⟨first, left⟩ := placed_report r causes here
    obtain ⟨second, right⟩ := placed_report { r with place } causes there
    rw [left, right]
    exact .placed { r with place := first } second causes
  | @unplayable r s code fault =>
    obtain ⟨first, left⟩ := placed_report r [] here
    obtain ⟨second, right⟩ := placed_report s [] there
    rw [left, right]
    exact .unplayable code fault

end Failure

/-- That two files can both be played and have the same core, or fail alike. -/
inductive Loaded.Alike (a b : Loaded) : Prop where
  | plays (left : a.failure = none) (right : b.failure = none) (core : a.script.core = b.script.core)
  | fails {f g : Failure} (left : a.failure = some f) (right : b.failure = some g)
      (alike : f.Alike g)

structure Loader.Alike (l m : Loader) : Prop where
  directory : l.directory = m.directory
  cache : List.Forall₂ (fun a b => a.1 = b.1 ∧ a.2.Alike b.2) l.cache m.cache

/-- That two results are related, or are failures that are alike. -/
inductive Answered {α β : Type} (R : α → β → Prop) : Except Failure α → Except Failure β → Prop where
  | error {f g : Failure} (alike : f.Alike g) : Answered R (.error f) (.error g)
  | ok {a : α} {b : β} (same : R a b) : Answered R (.ok a) (.ok b)

structure Fetched.Alike {α : Type} (W : σ → τ → Prop) (R : α → α → Prop) (f : Fetched σ α)
    (g : Fetched τ α) : Prop where
  result : Answered R f.result g.result
  loader : f.loader.Alike g.loader
  world : W f.world g.world

/-- That two ways of reading a file give texts that hold the same but for the spelling of items. -/
inductive Retold (W : σ → τ → Prop) (path : Text) :
    Except Failure Text × σ → Except Failure Text × τ → Prop where
  | failed (cause : Failure) {w : σ} {v : τ} (after : W w v) :
    Retold W path (.error cause, w) (.error cause, v)
  | read {text other : Text} (alike : (Loaded.ofText path text).Alike (.ofText path other)) {w : σ}
      {v : τ} (after : W w v) : Retold W path (.ok text, w) (.ok other, v)

/-- That two hosts behave alike and the files of the one retell those of the other. -/
structure Host.Retells (W : σ → τ → Prop) (h : Host σ) (k : Host τ) : Prop
    extends h.Matches [] W k where
  files : ∀ {w v} (path), W w v → Retold W path (h.read path w) (k.read path v)

/-! ## Files and scenes -/

namespace Loader

variable {l m : Loader}

theorem lookup_alike {xs ys : List (Text × Loaded)}
    (cache : List.Forall₂ (fun a b => a.1 = b.1 ∧ a.2.Alike b.2) xs ys) (key : Text) :
    Option.Rel Loaded.Alike (xs.lookup key) (ys.lookup key) := by
  induction cache with
  | nil => exact .none
  | @cons a b _ _ here _ ih =>
    obtain ⟨path, loaded⟩ := a
    obtain ⟨path', loaded'⟩ := b
    obtain ⟨rfl, alike⟩ : path = path' ∧ loaded.Alike loaded' := here
    rw [List.lookup_cons, List.lookup_cons]
    split
    · exact .some alike
    · exact ih

theorem find_alike {a b : Loaded} (alike : a.Alike b) (module scene : Text) :
    Answered (fun x y : Found => x.core = y.core)
      (a.playable >>= fun script => script.find module scene)
      (b.playable >>= fun script => script.find module scene) := by
  cases alike with
  | fails left right alike =>
    simp only [Loaded.playable, left, right]
    exact .error alike
  | plays left right core =>
    simp only [Loaded.playable, left, right]
    change Answered _ (a.script.find module scene) (b.script.find module scene)
    have same := (a.script.find_core module scene).symm.trans
      ((congrArg (fun s : Script => s.find module scene) core).trans (b.script.find_core module scene))
    cases first : a.script.find module scene with
    | error f =>
      cases second : b.script.find module scene with
      | error g =>
        rw [first, second] at same
        obtain rfl : f = g := by simpa [Except.map] using same
        obtain ⟨r, rfl⟩ := Script.find_eq_ofReport first
        exact .error (Failure.alike_ofReport r)
      | ok found =>
        rw [first, second] at same
        cases same
    | ok found =>
      cases second : b.script.find module scene with
      | error g =>
        rw [first, second] at same
        cases same
      | ok found' =>
        rw [first, second] at same
        exact .ok (Except.ok.inj same)

theorem lookup_found_alike (alike : l.Alike m) (a : Address) :
    Answered (fun x y : Found => x.core = y.core) (l.lookup a) (m.lookup a) := by
  unfold lookup
  have files := lookup_alike alike.cache a.file
  generalize l.cache.lookup a.file = first at files
  generalize m.cache.lookup a.file = second at files
  cases files with
  | none => exact .error (Failure.alike_ofReport _)
  | some loaded => exact find_alike loaded a.module a.scene

theorem load_alike {h : Host σ} {k : Host τ} (hosts : h.Retells W k) (alike : l.Alike m)
    (path : Text) {w : σ} {v : τ} (worlds : W w v) :
    (l.load h.read path w).Alike W Loaded.Alike (m.load k.read path v) := by
  unfold load
  rw [alike.directory]
  cases Path.canonical m.directory path with
  | error cause => exact ⟨.error (Failure.alike_because _ cause), alike, worlds⟩
  | ok key =>
    dsimp only
    have files := lookup_alike alike.cache key
    generalize l.cache.lookup key = first at files
    generalize m.cache.lookup key = second at files
    cases files with
    | some loaded => exact ⟨.ok loaded, alike, worlds⟩
    | none =>
      have texts := hosts.files key worlds
      dsimp only
      generalize h.read key w = a at texts
      generalize k.read key v = b at texts
      cases texts with
      | failed cause after => exact ⟨.error (Failure.alike_because _ cause), alike, after⟩
      | read loaded after =>
        exact ⟨.ok loaded, ⟨alike.directory, List.rel_append alike.cache
          (.cons ⟨rfl, loaded⟩ .nil)⟩, after⟩

theorem resolve_alike {h : Host σ} {k : Host τ} (hosts : h.Retells W k) (alike : l.Alike m)
    (a : Address) {w : σ} {v : τ} (worlds : W w v) :
    (l.resolve h.read a w).Alike W (fun x y => x.core = y.core) (m.resolve k.read a v) := by
  obtain ⟨result, loader, world⟩ := load_alike hosts alike a.file worlds
  refine ⟨?_, loader, world⟩
  simp only [resolve]
  generalize (l.load h.read a.file w).result = first at result
  generalize (m.load k.read a.file v).result = second at result
  cases result with
  | error alike => exact .error alike
  | ok same => exact find_alike same a.module a.scene

theorem follow_alike {h : Host σ} {k : Host τ} (hosts : h.Retells W k) (alike : l.Alike m)
    (origin : Address) (target : Target) {w : σ} {v : τ} (worlds : W w v) :
    (l.follow h.read origin target w).Alike W (fun x y => x.core = y.core)
      (m.follow k.read origin target v) := by
  cases target with
  | sameFile module scene => exact ⟨lookup_found_alike alike _, alike, worlds⟩
  | otherFile path module scene => exact resolve_alike hosts alike _ worlds

/-- Offers with the same core are broken alike. -/
theorem brokenOffer?_alike (alike : l.Alike m) (origin : Address) {offers others : List Offer}
    (same : offers.map Offer.core = others.map Offer.core) :
    Option.Rel (fun x y => x.2.Alike y.2) (l.brokenOffer? origin offers)
      (m.brokenOffer? origin others) := by
  induction offers generalizing others with
  | nil =>
    obtain rfl : others = [] := List.map_eq_nil_iff.mp same.symm
    exact .none
  | cons o rest ih =>
    cases others with
    | nil => cases same
    | cons o' rest' =>
      obtain ⟨here, later⟩ := List.cons.inj same
      have target : o.core.branch.target = o'.core.branch.target :=
        congrArg (·.branch.target) here
      change o.branch.target = o'.branch.target at target
      simp only [brokenOffer?, target]
      split
      · exact ih later
      · next module scene _ =>
        have found := lookup_found_alike alike ⟨origin.file, module.getD origin.module, scene⟩
        change Answered _ (l.lookupFrom origin module scene) (m.lookupFrom origin module scene)
          at found
        generalize l.lookupFrom origin module scene = first at found
        generalize m.lookupFrom origin module scene = second at found
        cases found with
        | error failed => exact .some failed
        | ok _ => exact ih later

end Loader

/-! ## Sessions side by side -/

/-- That two sessions are the same but for spellings and places. -/
structure Session.Alike (s t : Session) : Prop where
  id : s.id = t.id
  maxRetries : s.maxRetries = t.maxRetries
  stage : s.stage = t.stage
  current : s.current.map Found.core = t.current.map Found.core
  keys : s.inventory.keys = t.inventory.keys
  offers : s.offers.map Offer.core = t.offers.map Offer.core
  retries : s.retries = t.retries
  ending : Option.Rel Failure.Alike s.ending t.ending

theorem Session.position_eq (s : Session) :
    s.position = (s.current.map Found.address).getD {} := by
  unfold position
  cases s.current with
  | none => rfl
  | some found => rfl

theorem Session.eventAddress_eq (s : Session) :
    s.eventAddress = ((s.current.map Found.address).map Address.text).getD [] := by
  unfold eventAddress
  cases s.current with
  | none => rfl
  | some found => rfl

namespace Session.Alike

variable {s t : Session} (alike : s.Alike t)
include alike

theorem address : s.current.map Found.address = t.current.map Found.address := by
  have same := congrArg (Option.map Found.address) alike.current
  rwa [Option.map_map, Option.map_map] at same

theorem position : s.position = t.position := by
  rw [Session.position_eq, alike.address, ← Session.position_eq]

theorem eventAddress : s.eventAddress = t.eventAddress := by
  rw [Session.eventAddress_eq, alike.address, ← Session.eventAddress_eq]

theorem choices : s.choices = t.choices := by
  have same := congrArg (List.map Offer.choice) alike.offers
  rwa [map_choice_core, map_choice_core] at same

theorem length_offers : s.offers.length = t.offers.length := by
  simpa using congrArg List.length alike.offers

end Session.Alike

/-- That transcripts are told the same but for the spelling of an item or the place of a failure. -/
inductive Event.Alike : Event → Event → Prop where
  | same (e : Event) : Alike e e
  | item (address : Text) {e e' : Effect} (core : e.core = e'.core) :
    Alike (.happened .inventory address e.text) (.happened .inventory address e'.text)
  | ending (address : Text) {f g : Failure} (alike : f.Alike g) :
    Alike (.happened .ending address f.text) (.happened .ending address g.text)

theorem Event.forall₂_alike_self (es : List Event) : List.Forall₂ Alike es es :=
  List.forall₂_same.mpr fun e _ => .same e

theorem Event.forall₂_alike_items (address : Text) {es es' : List Effect}
    (core : es.map Effect.core = es'.map Effect.core) :
    List.Forall₂ Alike (es.map (.happened .inventory address ·.text))
      (es'.map (.happened .inventory address ·.text)) := by
  induction es generalizing es' with
  | nil =>
    obtain rfl : es' = [] := List.map_eq_nil_iff.mp core.symm
    exact .nil
  | cons e rest ih =>
    cases es' with
    | nil => cases core
    | cons e' rest' =>
      obtain ⟨here, later⟩ := List.cons.inj core
      exact .cons (.item address here) (ih later)

structure View.Alike (v u : View) : Prop where
  session : v.session.Alike u.session
  loader : v.loader.Alike u.loader
  story : List.Forall₂ Event.Alike v.story u.story

namespace View.Alike

variable {v u : View} (alike : v.Alike u)
include alike

theorem tell {es es' : List Event} (told : List.Forall₂ Event.Alike es es') :
    (v.tell es).Alike (u.tell es') :=
  ⟨alike.session, alike.loader, List.rel_append alike.story told⟩

theorem finish {f g : Failure} (failures : f.Alike g) : (v.finish f).2.Alike (u.finish g).2 := by
  have told : List.Forall₂ Event.Alike (v.session.farewell f) (u.session.farewell g) := by
    rw [Session.farewell, Session.farewell, alike.session.eventAddress, failures.code]
    exact .cons (.ending _ failures) (.cons (.same _) .nil)
  refine ⟨?_, alike.loader, List.rel_append alike.story told⟩
  exact { alike.session with stage := rfl, offers := rfl, ending := .some failures }

theorem arrive {found found' : Found} (same : found.core = found'.core) :
    (v.arrive found).Alike (u.arrive found') := by
  have address : found.core.address = found'.core.address := congrArg (·.address) same
  have effects : found.core.scene.effects = found'.core.scene.effects :=
    congrArg (·.scene.effects) same
  change found.address = found'.address at address
  obtain ⟨keys, changed⟩ := Inventory.keys_applyAll alike.session.keys effects
  have told : List.Forall₂ Event.Alike (found.arrival v.session.inventory)
      (found'.arrival u.session.inventory) := by
    rw [Found.arrival, Found.arrival, address]
    exact .cons (.same _) (Event.forall₂_alike_items _ changed)
  rw [Inventory.applyAll_fst, Inventory.applyAll_fst] at keys
  refine ⟨?_, alike.loader, List.rel_append alike.story told⟩
  exact { alike.session with current := congrArg some same, keys, retries := rfl }

theorem await {found found' : Found} (same : found.core = found'.core) :
    (v.await found).Alike (u.await found') := by
  have offers := Scene.offers_core alike.session.keys (congrArg (·.scene) same)
  exact ⟨{ alike.session with stage := rfl, offers }, alike.loader, alike.story⟩

theorem choice (n : Nat) {offer offer' : Offer} (same : offer.core = offer'.core) :
    (v.choice n offer).Alike (u.choice n offer') := by
  have label : offer.core.choice = offer'.core.choice := congrArg (·.choice) same
  change offer.choice = offer'.choice at label
  unfold View.choice
  rw [alike.session.eventAddress, label]
  exact alike.tell (Event.forall₂_alike_self _)

theorem mistake (input : Text) : (v.mistake input).Alike (u.mistake input) := by
  have told := Event.forall₂_alike_self
    [.happened .invalidChoice v.session.eventAddress input]
  nth_rewrite 2 [alike.session.eventAddress] at told
  refine ⟨?_, alike.loader, List.rel_append alike.story told⟩
  exact { alike.session with retries := congrArg (· + 1) alike.session.retries }

end View.Alike

namespace Play

/-- That two answers are alike and leave plays that are alike, in worlds that are related. -/
structure Alongside (W : σ → τ → Prop) (r : Option Failure × Play σ)
    (s : Option Failure × Play τ) : Prop where
  answer : Option.Rel Failure.Alike r.1 s.1
  view : r.2.view.Alike s.2.view
  world : W r.2.world s.2.world

variable {h : Host σ} {k : Host τ} {p : Play σ} {q : Play τ}

theorem arrive_world (p : Play σ) (found : Found) (inventory : Inventory) (changed : List Effect) :
    (p.arrive found inventory changed).world = p.world := by
  suffices told : ∀ q : Play σ,
      (changed.foldl (fun q e => q.happen .inventory e.text) q).world = q.world from told _
  intro q
  induction changed generalizing q with
  | nil => rfl
  | cons e rest ih => exact ih (q.happen .inventory e.text)

theorem finish_world (p : Play σ) (f : Failure) : (p.finish f).2.world = p.world := by
  simp only [finish, endingNote]
  split
  · rfl
  · rfl

theorem finish_alongside {f g : Failure} (failures : f.Alike g) (views : p.view.Alike q.view)
    (worlds : W p.world q.world) : Alongside W (p.finish f) (q.finish g) := by
  have left := congrArg Prod.snd (seen_finish p f)
  have right := congrArg Prod.snd (seen_finish q g)
  refine ⟨.some failures, ?_, ?_⟩
  · change (seen (p.finish f)).2.Alike (seen (q.finish g)).2
    rw [left, right]
    exact views.finish failures
  · rw [finish_world, finish_world]
    exact worlds

theorem shown_alongside {a : Option Failure × σ} {b : Option Failure × τ} (paired : Paired W a b)
    (views : p.view.Alike q.view) {next : Play σ → Option Failure × Play σ}
    {next' : Play τ → Option Failure × Play τ}
    (go : ∀ {w v}, W w v → Alongside W (next { p with world := w }) (next' { q with world := v })) :
    Alongside W (p.shown a next) (q.shown b next') := by
  obtain ⟨cause?, after⟩ := paired
  cases cause? with
  | none => exact go after
  | some cause =>
    exact finish_alongside (p := { p with world := _ }) (q := { q with world := _ })
      (Failure.alike_because _ cause) views after

section

variable (hosts : h.Retells W k)
include hosts

theorem unlessHalted_alongside {next : Play σ → Option Failure × Play σ}
    {next' : Play τ → Option Failure × Play τ} (views : p.view.Alike q.view)
    (worlds : W p.world q.world)
    (go : ∀ {w v}, W w v → Alongside W (next { p with world := w }) (next' { q with world := v })) :
    Alongside W (p.unlessHalted h next) (q.unlessHalted k next') := by
  have paired := hosts.halted worlds
  unfold unlessHalted
  generalize h.halted p.world = a at paired
  generalize k.halted q.world = b at paired
  obtain ⟨cause?, after⟩ := paired
  cases cause? with
  | none => exact go after
  | some cause =>
    exact finish_alongside (p := { p with world := _ }) (q := { q with world := _ })
      (Failure.alike_because _ cause) views after

theorem present_alongside (views : p.view.Alike q.view) (worlds : W p.world q.world) :
    Alongside W (p.present h) (q.present k) := by
  have choices : p.session.choices = q.session.choices := views.session.choices
  unfold present
  rw [choices]
  exact shown_alongside (hosts.offer _ worlds) views fun after => ⟨.none, views, after⟩

theorem offerBranches_alongside {found found' : Found} (same : found.core = found'.core)
    (views : p.view.Alike q.view) (worlds : W p.world q.world) :
    Alongside W (p.offerBranches h found) (q.offerBranches k found') := by
  have offers := Scene.offers_core views.session.keys (congrArg (·.scene) same)
  have name : found.core.scene.name = found'.core.scene.name := congrArg (·.scene.name) same
  have address : found.core.address = found'.core.address := congrArg (·.address) same
  have empty := congrArg List.isEmpty offers
  rw [List.isEmpty_map, List.isEmpty_map] at empty
  change found.scene.name = found'.scene.name at name
  change found.address = found'.address at address
  change (found.scene.offers p.session.inventory).isEmpty =
    (found'.scene.offers q.session.inventory).isEmpty at empty
  unfold offerBranches
  dsimp only
  rw [empty, Found.deadEnd, Found.deadEnd, name, address]
  split
  · exact finish_alongside (.placed _ _ []) views worlds
  · have broken := Loader.brokenOffer?_alike views.loader found'.address offers
    change Option.Rel _ (p.loader.brokenOffer? found'.address
        (found.scene.offers p.session.inventory) (Crew.look (List Event)))
      (q.loader.brokenOffer? found'.address (found'.scene.offers q.session.inventory)
        (Crew.look (List Event))) at broken
    generalize p.loader.brokenOffer? found'.address
      (found.scene.offers p.session.inventory) (Crew.look (List Event)) = first at broken
    generalize q.loader.brokenOffer? found'.address
      (found'.scene.offers q.session.inventory) (Crew.look (List Event)) = second at broken
    cases broken with
    | some failures => exact finish_alongside (failures.located _ _) views worlds
    | none =>
      exact present_alongside (p := { p with session := p.session.awaiting found })
        (q := { q with session := q.session.awaiting found' }) hosts (views.await same) worlds

theorem receive_alongside {found found' : Found} (same : found.core = found'.core)
    (views : p.view.Alike q.view) (worlds : W p.world q.world) :
    Alongside W
      (p.receive h found (p.session.inventory.applyAll found.scene.effects).1
        (p.session.inventory.applyAll found.scene.effects).2)
      (q.receive k found' (q.session.inventory.applyAll found'.scene.effects).1
        (q.session.inventory.applyAll found'.scene.effects).2) := by
  have lines : found.core.scene.flavortext = found'.core.scene.flavortext :=
    congrArg (·.scene.flavortext) same
  change found.scene.flavortext = found'.scene.flavortext at lines
  have arrived := views.arrive same
  rw [← view_arrive, ← view_arrive] at arrived
  have after := worlds
  rw [← p.arrive_world found, ← q.arrive_world found'] at after
  unfold receive
  rw [lines]
  cases found'.scene.flavortext with
  | some lines =>
    exact shown_alongside (hosts.tell lines after) arrived fun later =>
      offerBranches_alongside (p := { p.arrive .. with world := _ })
        (q := { q.arrive .. with world := _ }) hosts same arrived later
  | none => exact offerBranches_alongside hosts same arrived after

theorem enter_alongside {found found' : Found} (same : found.core = found'.core)
    (views : p.view.Alike q.view) (worlds : W p.world q.world) :
    Alongside W (p.enter h found) (q.enter k found') := by
  have staged : (View.mk { p.session with stage := .presenting } p.loader p.story).Alike
      (View.mk { q.session with stage := .presenting } q.loader q.story) :=
    ⟨{ views.session with stage := rfl }, views.loader, views.story⟩
  unfold enter
  refine unlessHalted_alongside (p := { p with session := { p.session with stage := .presenting } })
    (q := { q with session := { q.session with stage := .presenting } }) hosts staged worlds
    fun {w v} after => ?_
  exact receive_alongside
    (p := { p with session := { p.session with stage := .presenting }, world := w })
    (q := { q with session := { q.session with stage := .presenting }, world := v }) hosts same
    staged after

/-- What comes of a file that was asked for, be it a scene or a failure. -/
theorem pursue_alongside {f : Fetched σ Found} {g : Fetched τ Found}
    (fetched : f.Alike W (fun x y => x.core = y.core) g) (views : p.view.Alike q.view)
    {locate locate' : Failure → Failure}
    (located : ∀ {a b : Failure}, a.Alike b → (locate a).Alike (locate' b)) :
    Alongside W (p.pursue h f locate) (q.pursue k g locate') := by
  obtain ⟨result, loader, world⟩ := fetched
  have views' : (p.fetched f).view.Alike (q.fetched g).view := by
    rw [view_fetched, view_fetched]
    exact ⟨views.session, loader, views.story⟩
  unfold pursue
  generalize f.result = first at result
  generalize g.result = second at result
  cases result with
  | error failures => exact finish_alongside (located failures) views' world
  | ok same => exact enter_alongside hosts same views' world

theorem start_alongside (entry : Address) (views : p.view.Alike q.view)
    (worlds : W p.world q.world) : Alongside W (p.start h entry) (q.start k entry) := by
  have stage : p.session.stage = q.session.stage := views.session.stage
  by_cases fresh : q.session.stage = .awaitingEntry
  · have begun : (p.begun entry).view.Alike (q.begun entry).view := by
      rw [view_begun, view_begun]
      exact views.tell (Event.forall₂_alike_self _)
    unfold start
    rw [if_neg (not_not.mpr (stage.trans fresh)), if_neg (not_not.mpr fresh)]
    refine unlessHalted_alongside (p := p.begun entry) (q := q.begun entry) hosts begun worlds
      fun {w v} after => ?_
    exact pursue_alongside (p := { p.begun entry with world := w })
      (q := { q.begun entry with world := v }) hosts
      (Loader.resolve_alike hosts views.loader entry after) begun id
  · rw [start_of_ne h entry (stage ▸ fresh), start_of_ne k entry fresh, stage]
    exact ⟨.some (Failure.alike_ofReport _), views, worlds⟩

theorem take_alongside (n : Nat) {offer offer' : Offer} (same : offer.core = offer'.core)
    (views : p.view.Alike q.view) (worlds : W p.world q.world) :
    Alongside W (p.take h n offer) (q.take k n offer') := by
  have target : offer.core.branch.target = offer'.core.branch.target :=
    congrArg (·.branch.target) same
  change offer.branch.target = offer'.branch.target at target
  have position : p.session.position = q.session.position := views.session.position
  have chosen : (p.decided n offer).view.Alike (q.decided n offer').view := by
    rw [view_decided, view_decided]
    exact views.choice n same
  have fetched : (p.loader.follow h.read p.session.position offer.branch.target p.world).Alike W
      (fun x y => x.core = y.core)
      (q.loader.follow k.read q.session.position offer'.branch.target q.world) := by
    rw [target, position]
    exact Loader.follow_alike hosts views.loader _ _ worlds
  refine pursue_alongside
    (p := { p.decided n offer with
      session := { p.session with stage := .transitioning, offers := [] } })
    (q := { q.decided n offer' with
      session := { q.session with stage := .transitioning, offers := [] } })
    hosts fetched ?_ fun failures => failures.located _ _
  exact ⟨{ views.session with stage := rfl, offers := rfl }, views.loader, chosen.story⟩

theorem insist_alongside (problem : Problem) (address : Text) (views : p.view.Alike q.view)
    (worlds : W p.world q.world) :
    Alongside W (p.insist h problem address) (q.insist k problem address) := by
  have retries : p.session.retries = q.session.retries := views.session.retries
  have limit : p.session.maxRetries = q.session.maxRetries := views.session.maxRetries
  have presented := present_alongside hosts views worlds
  unfold insist
  rw [limit, retries]
  split
  · exact finish_alongside (Failure.alike_ofReport _) views worlds
  · generalize p.present h = r at presented
    generalize q.present k = s at presented
    obtain ⟨first, p'⟩ := r
    obtain ⟨second, q'⟩ := s
    obtain ⟨answer, view, world⟩ := presented
    cases answer with
    | some failures => exact ⟨.some failures, view, world⟩
    | none => exact ⟨.some (Failure.alike_ofReport _), view, world⟩

theorem reject_alongside (input : Text) (views : p.view.Alike q.view)
    (worlds : W p.world q.world) : Alongside W (p.reject h input) (q.reject k input) := by
  have offers : p.session.offers.length = q.session.offers.length := views.session.length_offers
  have address : p.session.eventAddress = q.session.eventAddress := views.session.eventAddress
  have mistaken : (p.mistaken input).view.Alike (q.mistaken input).view := by
    rw [view_mistaken, view_mistaken]
    exact views.mistake input
  unfold reject
  dsimp only
  rw [offers, address]
  exact shown_alongside (p := p.mistaken input) (q := q.mistaken input) (hosts.complain _ worlds)
    mistaken fun {w v} after => insist_alongside (p := { p.mistaken input with world := w })
      (q := { q.mistaken input with world := v }) hosts _ _ mistaken after

theorem choose_alongside (input : Text) (views : p.view.Alike q.view)
    (worlds : W p.world q.world) : Alongside W (p.choose h input) (q.choose k input) := by
  have stage : p.session.stage = q.session.stage := views.session.stage
  by_cases waiting : q.session.stage = .awaitingChoice
  · unfold choose
    rw [if_neg (not_not.mpr (stage.trans waiting)), if_neg (not_not.mpr waiting)]
    refine unlessHalted_alongside hosts views worlds fun {w v} after => ?_
    dsimp only
    have offers : p.session.offers.map Offer.core = q.session.offers.map Offer.core :=
      views.session.offers
    have picked := (pick?_core p.session.offers input).symm.trans
      (offers ▸ pick?_core q.session.offers input)
    cases first : pick? p.session.offers input with
    | none =>
      rw [first] at picked
      rw [Option.map_eq_none_iff.mp picked.symm]
      exact reject_alongside (p := { p with world := w }) (q := { q with world := v }) hosts input
        views after
    | some choice =>
      rw [first] at picked
      obtain ⟨choice', second, same⟩ := Option.map_eq_some_iff.mp picked.symm
      obtain ⟨n, offer⟩ := choice
      obtain ⟨n', offer'⟩ := choice'
      obtain ⟨rfl, core⟩ : n' = n ∧ offer'.core = offer.core := Prod.mk.inj same
      rw [second]
      exact take_alongside (p := { p with world := w }) (q := { q with world := v }) hosts n'
        core.symm views after
  · rw [choose_of_ne h input (stage ▸ waiting), choose_of_ne k input waiting, stage]
    exact ⟨.some (Failure.alike_ofReport _), views, worlds⟩

omit hosts in
theorem cancel_alongside (views : p.view.Alike q.view) (worlds : W p.world q.world) :
    Alongside W (none, p.cancel) (none, q.cancel) := by
  have stage : p.session.stage = q.session.stage := views.session.stage
  unfold cancel
  rw [stage]
  split
  · exact ⟨.none, views, worlds⟩
  · have finished := finish_alongside (Failure.alike_ofReport { problem := .sessionCancelled })
      views worlds
    exact ⟨.none, finished.view, finished.world⟩

theorem unanswered_alongside (cause : Failure) (views : p.view.Alike q.view)
    (worlds : W p.world q.world) :
    Alongside W (p.unanswered h cause) (q.unanswered k cause) := by
  unfold unanswered
  split
  · exact finish_alongside (Failure.alike_because _ cause) views worlds
  · have paired := hosts.halted worlds
    generalize h.halted p.world = a at paired
    generalize k.halted q.world = b at paired
    obtain ⟨stop?, after⟩ := paired
    dsimp only
    split
    · exact finish_alongside (p := { p with world := _ }) (q := { q with world := _ })
        (Failure.alike_because _ cause) views after
    · exact finish_alongside (p := { p with world := _ }) (q := { q with world := _ })
        (Failure.alike_because _ cause) views after

theorem attend_alongside {last : Nat → σ → Failure × σ} {last' : Nat → τ → Failure × τ}
    (lasts : ∀ n {w v}, W w v → Paired W (last n w) (last' n v)) {as : List (Answer σ)}
    {bs : List (Answer τ)} (answers : List.Forall₂ (Answer.Matches W) as bs)
    (views : p.view.Alike q.view) (worlds : W p.world q.world) :
    Alongside W (p.attend h last as) (q.attend k last' bs) := by
  -- The players are asked with the same number of offers, so they give the same answer.
  induction answers generalizing p q with
  | nil =>
    have stage : p.session.stage = q.session.stage := views.session.stage
    have offers : p.session.offers.length = q.session.offers.length := views.session.length_offers
    unfold attend
    rw [stage, offers]
    split
    · exact ⟨views.session.ending, views, worlds⟩
    · have paired := lasts q.session.offers.length worlds
      generalize last q.session.offers.length p.world = a at paired
      generalize last' q.session.offers.length q.world = b at paired
      obtain ⟨cause, after⟩ := paired
      exact unanswered_alongside (p := { p with world := _ }) (q := { q with world := _ }) hosts
        cause views after
  | @cons f g _ _ matched _ ih =>
    have stage : p.session.stage = q.session.stage := views.session.stage
    have offers : p.session.offers.length = q.session.offers.length := views.session.length_offers
    unfold attend
    rw [stage, offers]
    split
    · exact ⟨views.session.ending, views, worlds⟩
    · have paired := matched q.session.offers.length worlds
      generalize f q.session.offers.length p.world = a at paired
      generalize g q.session.offers.length q.world = b at paired
      obtain @⟨answer, w, v, after⟩ := paired
      cases answer with
      | error cause =>
        exact unanswered_alongside (p := { p with world := w }) (q := { q with world := v }) hosts
          cause views after
      | ok input =>
        have chosen := choose_alongside (p := { p with world := w }) (q := { q with world := v })
          hosts input views after
        dsimp only
        generalize Play.choose h input { p with world := w } = r at chosen
        generalize Play.choose k input { q with world := v } = s at chosen
        obtain ⟨first, p'⟩ := r
        obtain ⟨second, q'⟩ := s
        obtain ⟨answered, view, world⟩ := chosen
        have attended := ih view world
        cases answered with
        | none => exact attended
        | some failures =>
          dsimp only
          rw [show p'.session.stage = q'.session.stage from view.session.stage]
          split
          · exact ⟨.some failures, view, world⟩
          · exact attended

theorem run_alongside {a : Player σ} {b : Player τ} (players : a.Matches W b) (entry : Address)
    (views : p.view.Alike q.view) (worlds : W p.world q.world) :
    Alongside W (p.run h (some a) entry) (q.run k (some b) entry) := by
  have started := start_alongside hosts entry views worlds
  unfold run
  dsimp only
  rcases first : p.start h entry with ⟨answer, p'⟩
  rcases second : q.start k entry with ⟨answer', q'⟩
  rw [first, second] at started
  obtain ⟨answers, view, world⟩ := started
  cases answers with
  | some failures => exact ⟨.some failures, view, world⟩
  | none => exact attend_alongside hosts players.last players.answers view world

theorem perform_alongside {d : Deed σ} {e : Deed τ} (deeds : d.Matches W e)
    (views : p.view.Alike q.view) (worlds : W p.world q.world) :
    Alongside W (p.perform h d) (q.perform k e) := by
  cases deeds with
  | move m =>
    cases m with
    | start entry => exact start_alongside hosts entry views worlds
    | choose input => exact choose_alongside hosts input views worlds
  | nobody entry => exact ⟨.some (Failure.alike_ofReport _), views, worlds⟩
  | run players entry => exact run_alongside hosts players entry views worlds
  | cancel => exact cancel_alongside views worlds
  | meanwhile changes => exact ⟨.none, views, changes worlds⟩

theorem performAll_alongside {ds : List (Deed σ)} {es : List (Deed τ)}
    (deeds : List.Forall₂ (Deed.Matches W) ds es) (views : p.view.Alike q.view)
    (worlds : W p.world q.world) :
    List.Forall₂ (Alongside W) (p.performAll h ds) (q.performAll k es) := by
  induction deeds generalizing p q with
  | nil => exact .nil
  | cons matched _ ih =>
    have now := perform_alongside hosts matched views worlds
    exact .cons now (ih now.view now.world)

end

/-- That two answers, and the plays that they leave, agree in all but the spellings of items and the
    places of failures. -/
structure Echoes (r : Option Failure × Play σ) (s : Option Failure × Play τ) : Prop where
  stage : r.2.session.stage = s.2.session.stage
  position : r.2.session.position = s.2.session.position
  choices : r.2.session.choices = s.2.session.choices
  answer : Option.Rel Failure.Alike r.1 s.1
  code : r.1.map Failure.code = s.1.map Failure.code
  ending : Option.Rel Failure.Alike r.2.session.ending s.2.session.ending
  items : r.2.session.inventory.sameItems s.2.session.inventory = true
  size : r.2.session.inventory.size = s.2.session.inventory.size
  keys : r.2.session.inventory.keys = s.2.session.inventory.keys
  story : List.Forall₂ Event.Alike r.2.story s.2.story

theorem Alongside.echoes {r : Option Failure × Play σ} {s : Option Failure × Play τ}
    (alongside : Alongside W r s) : Echoes r s := by
  obtain ⟨answer, view, -⟩ := alongside
  have keys : r.2.session.inventory.keys = s.2.session.inventory.keys := view.session.keys
  have code : r.1.map Failure.code = s.1.map Failure.code := by
    generalize r.1 = first at answer
    generalize s.1 = second at answer
    cases answer with
    | some alike => exact congrArg some alike.code
    | none => rfl
  exact
    { stage := view.session.stage
      position := view.session.position
      choices := view.session.choices
      answer
      code
      ending := view.session.ending
      items := Inventory.sameItems_of_keys keys
      size := by simpa [Inventory.keys, Inventory.size] using congrArg List.length keys
      keys
      story := view.story }

end Play

/-- Let a story be retold in files that have the same core: items may be spelled otherwise, as long
    as they fold to the same, and everything may stand elsewhere. With hosts and players that behave
    alike, and items to start with that fold to the same, a session of the one story and a session
    of the other go through the same stages and positions, offer the same choices, accept the same
    inputs, fail with the same codes and hold the same items. -/
theorem item_spelling_is_irrelevant {h : Host σ} {k : Host τ} (hosts : h.Retells W k)
    {l m : Loader} (loaders : l.Alike m) {w : σ} {v : τ} (worlds : W w v) (id : Text)
    (maxRetries : Int) {items others : List Text}
    (spelled : items.map Text.fold = others.map Text.fold) {deeds : List (Deed σ)}
    {deeds' : List (Deed τ)} (alike : List.Forall₂ (Deed.Matches W) deeds deeds') :
    List.Forall₂ Play.Echoes
      (Play.performAll h ⟨{ id, maxRetries, inventory := .ofItems items }, l, w, []⟩ deeds)
      (Play.performAll k ⟨{ id, maxRetries, inventory := .ofItems others }, m, v, []⟩ deeds') := by
  have keys : (Inventory.ofItems items).keys = (Inventory.ofItems others).keys :=
    Inventory.keys_foldl_insert rfl spelled
  have views : (Play.view ⟨{ id, maxRetries, inventory := .ofItems items }, l, w, []⟩).Alike
      (Play.view ⟨{ id, maxRetries, inventory := .ofItems others }, m, v, []⟩) :=
    ⟨⟨rfl, rfl, rfl, rfl, keys, rfl, rfl, .none⟩, loaders, .nil⟩
  exact (Play.performAll_alongside hosts alike views worlds).imp fun _ _ together =>
    together.echoes

/-- A key is found, and asked for in other letters; in the story that is retold, it is written
    otherwise each time. The player holds the same items, with other spellings. -/
theorem item_spelling_is_irrelevant_key :
    let text : Text := "@module m: @scene s: get \"Key\"; select \x7b has \"KEY\" ? \"in\" => t, " ++
      ("has no \"key\" ? \"look\" => s \x7d; @end-scene " ++
        ("@scene t: lose \"LAMP\"; select \x7b \"out\" => s \x7d; @end-module m" : Text) : Text)
    let other : Text := "@module m:\n@scene s: get \"kEY\"; select \x7b has \"key\" ? \"in\" => t, " ++
      ("has no \"Key\" ? \"look\" => s \x7d; @end-scene\n" ++
        ("@scene t: lose \"Lamp\"; select \x7b \"out\" => s \x7d; @end-module m" : Text) : Text)
    let host (file : Text) : Host Unit :=
      { Story.vault.host with
        read := fun path w => (if path = "/a" then .ok file else .error [.missing "gone"], w) }
    let start (items : List Text) : Play Unit :=
      ⟨{ id := "v", inventory := .ofItems items }, { directory := "/" }, (), []⟩
    let deeds : List (Deed Unit) :=
      [.move (.start ⟨"a", "m", "s"⟩), .move (.choose "2"), .move (.choose "1")]
    let first := (start ["Rope", "lamp"]).performAll (host text) deeds
    let second := (start ["ROPE", "lAMP"]).performAll (host other) deeds
    List.Forall₂ Play.Echoes first second ∧
      first.getLast?.map (·.2.session.inventory.items) = some [("Key" : Text), ("Rope" : Text)] ∧
      second.getLast?.map (·.2.session.inventory.items) =
        some [("kEY" : Text), ("ROPE" : Text)] := by
  intro text other host start deeds first second
  let told : Script :=
    ⟨"/a", [⟨"m", .start, "/a",
      [⟨"s", .start, none, [.get "key" .start],
          [⟨"in", [.has "key"], .sameFile none "t", .start⟩,
            ⟨"look", [.lacks "key"], .sameFile none "s", .start⟩]⟩,
        ⟨"t", .start, none, [.lose "lamp" .start], [⟨"out", [], .sameFile none "s", .start⟩]⟩]⟩]⟩
  have one : (Loaded.ofText "/a" text).script.core = told := by decide +kernel
  have two : (Loaded.ofText "/a" other).script.core = told := by decide +kernel
  have alike : (Loaded.ofText "/a" text).Alike (.ofText "/a" other) :=
    .plays (by decide +kernel) (by decide +kernel) (one.trans two.symm)
  have hosts : (host text).Retells Eq (host other) :=
    { halted := fun same => .intro none same
      read := fun path unread => absurd unread List.not_mem_nil
      tell := fun lines same => .intro none same
      offer := fun choices same => .intro none same
      complain := fun message same => .intro none same
      files := by
        intro w v path same
        simp only [host]
        split
        · next here =>
          subst here
          exact .read alike same
        · exact .failed _ same }
  refine ⟨?_, by decide +kernel, by decide +kernel⟩
  exact item_spelling_is_irrelevant hosts ⟨rfl, .nil⟩ rfl "v" 0 (by decide +kernel)
    (List.forall₂_same.mpr fun d _ => d.matches_self)

end Gamebook
