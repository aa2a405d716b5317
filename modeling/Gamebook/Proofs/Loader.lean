import Gamebook.Proofs.Codes

/-! # What a loader keeps and finds

A loader keeps what the texts of files held when they were read (`ReadFrom`), and whatever it keeps
stays. A scene that it finds lies in a file that it keeps and that can be played (`Plays`), so a
target in the same file can fail only because the module or the scene is not declared there.
-/

namespace Gamebook

namespace Script

/-- A scene that is found is declared under the address it was asked for. -/
theorem find_eq_ok_iff {s : Script} {module scene : Text} {found : Found} :
    s.find module scene = .ok found ↔
      found.address = ⟨s.path, module, scene⟩ ∧ s.module? module = some found.module ∧
        found.module.scene? scene = some found.scene := by
  obtain ⟨address, m, sc⟩ := found
  unfold find
  cases inScript : s.module? module with
  | none => simp
  | some declared =>
    cases inModule : declared.scene? scene with
    | none =>
      simp only [inModule, reduceCtorEq, Option.some.injEq, false_iff, not_and]
      rintro - rfl other
      rw [inModule] at other
      cases other
    | some foundScene =>
      simp only [inModule, Except.ok.injEq, Found.mk.injEq, Option.some.injEq]
      constructor
      · rintro ⟨rfl, rfl, rfl⟩
        exact ⟨rfl, rfl, inModule⟩
      · rintro ⟨rfl, rfl, other⟩
        exact ⟨rfl, rfl, Option.some.inj (inModule.symm.trans other)⟩

end Script

namespace Loader

/-- That every file kept was read as a text that `texts` allows for its path. -/
def ReadFrom (texts : Text → Text → Prop) (l : Loader) : Prop :=
  ∀ entry ∈ l.cache, ∃ text, texts entry.1 text ∧ entry.2 = .ofText entry.1 text

/-- That a file was read and can be played. -/
def Plays (l : Loader) (file : Text) : Prop :=
  ∃ loaded, l.cache.lookup file = some loaded ∧ loaded.failure = none

/-- That `after` keeps at least what `before` does. -/
def Extends (before after : Loader) : Prop :=
  after.directory = before.directory ∧ before.cache <+: after.cache

theorem Extends.refl (l : Loader) : l.Extends l :=
  ⟨rfl, List.prefix_refl _⟩

theorem Extends.trans {first second third : Loader} (more : first.Extends second)
    (evenMore : second.Extends third) : first.Extends third :=
  ⟨evenMore.1.trans more.1, more.2.trans evenMore.2⟩

theorem readFrom_empty (texts : Text → Text → Prop) (directory : Text) :
    ReadFrom texts { directory } := by
  intro entry member
  exact absurd member List.not_mem_nil

/-- What is kept for a file is what its text holds. -/
theorem ReadFrom.of_lookup {texts : Text → Text → Prop} {l : Loader} (kept : l.ReadFrom texts)
    {file : Text} {loaded : Loaded} (here : l.cache.lookup file = some loaded) :
    ∃ text, texts file text ∧ loaded = .ofText file text := by
  obtain ⟨before, after, split, -⟩ := List.lookup_eq_some_iff.mp here
  exact kept (file, loaded) (by simp [split])

theorem Plays.mono {before after : Loader} (more : before.Extends after) {file : Text}
    (plays : before.Plays file) : after.Plays file := by
  obtain ⟨loaded, here, playable⟩ := plays
  exact ⟨loaded, more.2.lookup_eq_some here, playable⟩

section Load

variable {σ : Type} (read : ReadFile σ) (l : Loader) (path : Text) (w : σ)

theorem load_extends : l.Extends (l.load read path w).loader := by
  unfold load
  split
  · exact .refl l
  · split
    · exact .refl l
    · split
      · exact .refl l
      · exact ⟨rfl, List.prefix_append ..⟩

variable {l} in
/-- Only the file at the canonical path is read. -/
theorem ReadFrom.load_canonical {texts : Text → Text → Prop} (kept : l.ReadFrom texts)
    (given : ∀ key text, Path.canonical l.directory path = .ok key → (read key w).1 = .ok text →
      texts key text) : (l.load read path w).loader.ReadFrom texts := by
  unfold Loader.load
  split
  · exact kept
  · next key canonical =>
    split
    · exact kept
    · split
      · exact kept
      · next text after here =>
        intro entry member
        rcases List.mem_append.mp member with old | new
        · exact kept entry old
        · rw [List.mem_singleton.mp new]
          exact ⟨text, given key text canonical (by rw [here]), rfl⟩

variable {l} in
theorem ReadFrom.load {texts : Text → Text → Prop} (kept : l.ReadFrom texts)
    (given : ∀ key w text, (read key w).1 = .ok text → texts key text) :
    (l.load read path w).loader.ReadFrom texts :=
  kept.load_canonical read path w fun key text _ here => given key w text here

/-- A file that could be loaded is kept under its canonical path. -/
theorem load_lookup {loaded : Loaded} (ok : (l.load read path w).result = .ok loaded) :
    ∃ key, Path.canonical l.directory path = .ok key ∧
      (l.load read path w).loader.cache.lookup key = some loaded := by
  unfold load at ok ⊢
  split at ok
  · cases ok
  · next key canonical =>
    refine ⟨key, canonical, ?_⟩
    split at ok
    · next here =>
      cases ok
      exact here
    · next absent =>
      split at ok
      · cases ok
      · cases ok
        simp [keep, List.lookup_append, absent]

/-- A file that could not be loaded has no canonical path or could not be read. -/
theorem load_unread {f : Failure} (failed : (l.load read path w).result = .error f) :
    (∃ cause, Path.canonical l.directory path = .error cause ∧ f = .because (.badPath path) cause) ∨
      ∃ key cause, Path.canonical l.directory path = .ok key ∧ (read key w).1 = .error cause ∧
        f = .because
          (if cause.isMissingFile then .missingFile key else .unreadableFile key) cause := by
  unfold load at failed
  split at failed
  · next cause canonical =>
    cases failed
    exact .inl ⟨cause, canonical, rfl⟩
  · next key canonical =>
    split at failed
    · cases failed
    · split at failed
      · next cause after unread =>
        cases failed
        exact .inr ⟨key, cause, canonical, by rw [unread], rfl⟩
      · cases failed

theorem load_code {f : Failure} (failed : (l.load read path w).result = .error f) :
    f.code = .transfer ∨ f.code = .unresolvedFile := by
  rcases load_unread read l path w failed with ⟨cause, -, rfl⟩ | ⟨key, cause, -, -, rfl⟩
  · exact .inl rfl
  · rw [Failure.code_because]
    split
    · exact .inr rfl
    · exact .inl rfl

end Load

/-- The codes of failures to find a scene in a file that may have to be read first. -/
def NotFound (code : Code) : Prop :=
  code = .transfer ∨ code = .unresolvedFile ∨ code = .lexical ∨ code = .structural ∨
    code = .unresolvedModule ∨ code = .unresolvedScene

theorem NotFound.ne_deadEnd {code : Code} (notFound : NotFound code) : code ≠ .deadEnd := by
  rintro rfl
  simp [NotFound] at notFound

theorem NotFound.ne_invalidChoice {code : Code} (notFound : NotFound code) :
    code ≠ .invalidChoice := by
  rintro rfl
  simp [NotFound] at notFound

section Resolve

variable {σ : Type} {read : ReadFile σ} {l : Loader} {a : Address} {w : σ}

/-- A scene is found exactly if its file could be loaded and played and declares it. -/
theorem resolve_eq_ok_iff {found : Found} :
    (l.resolve read a w).result = .ok found ↔
      ∃ loaded, (l.load read a.file w).result = .ok loaded ∧ loaded.failure = none ∧
        loaded.script.find a.module a.scene = .ok found := by
  cases read : (l.load read a.file w).result with
  | error f => simp [resolve, read, bind, Except.bind]
  | ok loaded =>
    cases failure : loaded.failure with
    | some f => simp [resolve, read, Loaded.playable, failure, bind, Except.bind]
    | none => simp [resolve, read, Loaded.playable, failure, bind, Except.bind]

variable {texts : Text → Text → Prop}

/-- A scene that is found lies in a file that is kept and can be played. -/
theorem resolve_plays (kept : (l.resolve read a w).loader.ReadFrom texts) {found : Found}
    (ok : (l.resolve read a w).result = .ok found) :
    (l.resolve read a w).loader.Plays found.address.file := by
  obtain ⟨loaded, read, playable, here⟩ := resolve_eq_ok_iff.mp ok
  obtain ⟨key, -, stored⟩ := load_lookup _ _ _ _ read
  obtain ⟨text, -, rfl⟩ := kept.of_lookup stored
  refine ⟨_, ?_, playable⟩
  rw [(Script.find_eq_ok_iff.mp here).1]
  exact stored

theorem resolve_code (kept : (l.resolve read a w).loader.ReadFrom texts) {f : Failure}
    (failed : (l.resolve read a w).result = .error f) : NotFound f.code := by
  cases read : (l.load read a.file w).result with
  | error g =>
    have : g = f := by simpa [resolve, read, bind, Except.bind] using failed
    subst this
    rcases load_code _ _ _ _ read with code | code
    · exact .inl code
    · exact .inr (.inl code)
  | ok loaded =>
    -- What is kept was read from a text, so it fails only as texts do.
    obtain ⟨key, -, stored⟩ := load_lookup _ _ _ _ read
    obtain ⟨text, -, parsed⟩ := kept.of_lookup stored
    cases failure : loaded.failure with
    | some g =>
      have : g = f := by
        simpa [resolve, read, Loaded.playable, failure, bind, Except.bind] using failed
      subst this
      rw [parsed] at failure
      rcases Loaded.ofText_failure_code failure with code | code
      · exact .inr (.inr (.inl code))
      · exact .inr (.inr (.inr (.inl code)))
    | none =>
      have missing : loaded.script.find a.module a.scene = .error f := by
        simpa [resolve, read, Loaded.playable, failure, bind, Except.bind] using failed
      rcases Script.find_code missing with code | code
      · exact .inr (.inr (.inr (.inr (.inl code))))
      · exact .inr (.inr (.inr (.inr (.inr code))))

end Resolve

section Lookup

variable {l : Loader} {origin : Address} {module : Option Text} {scene : Text}

/-- A scene is found without reading exactly if its file is kept, can be played and declares it. -/
theorem lookup_eq_ok_iff {a : Address} {found : Found} :
    l.lookup a = .ok found ↔
      ∃ loaded, l.cache.lookup a.file = some loaded ∧ loaded.failure = none ∧
        loaded.script.find a.module a.scene = .ok found := by
  cases here : l.cache.lookup a.file with
  | none => simp [lookup, here]
  | some loaded =>
    cases failure : loaded.failure with
    | some f => simp [lookup, here, Loaded.playable, failure, bind, Except.bind]
    | none => simp [lookup, here, Loaded.playable, failure, bind, Except.bind]

theorem lookup_mono {after : Loader} (more : l.Extends after) {a : Address} {found : Found}
    (ok : l.lookup a = .ok found) : after.lookup a = .ok found := by
  obtain ⟨loaded, here, playable, declared⟩ := lookup_eq_ok_iff.mp ok
  exact lookup_eq_ok_iff.mpr ⟨loaded, more.2.lookup_eq_some here, playable, declared⟩

/-- In a file that can be played a scene is found exactly if it is declared there. -/
theorem lookupFrom_eq_find {loaded : Loaded} (here : l.cache.lookup origin.file = some loaded)
    (playable : loaded.failure = none) :
    l.lookupFrom origin module scene = loaded.script.find (module.getD origin.module) scene := by
  simp [lookupFrom, lookup, here, Loaded.playable, playable, bind, Except.bind]

/-- In a file that can be played only a module or a scene can be missing. -/
theorem lookupFrom_code (plays : l.Plays origin.file) {f : Failure}
    (failed : l.lookupFrom origin module scene = .error f) :
    f.code = .unresolvedModule ∨ f.code = .unresolvedScene := by
  obtain ⟨loaded, here, playable⟩ := plays
  rw [lookupFrom_eq_find here playable] at failed
  exact Script.find_code failed

variable {texts : Text → Text → Prop}

/-- A scene found in the same file lies in that file. -/
theorem lookupFrom_file (kept : l.ReadFrom texts) {found : Found}
    (ok : l.lookupFrom origin module scene = .ok found) : found.address.file = origin.file := by
  obtain ⟨loaded, here, -, declared⟩ := lookup_eq_ok_iff.mp ok
  obtain ⟨text, -, rfl⟩ := kept.of_lookup here
  rw [(Script.find_eq_ok_iff.mp declared).1]
  rfl

end Lookup

section Follow

variable {σ : Type} {read : ReadFile σ} {l : Loader} {origin : Address} {target : Target} {w : σ}
variable {texts : Text → Text → Prop}

theorem follow_extends : l.Extends (l.follow read origin target w).loader := by
  cases target with
  | sameFile module scene => exact .refl l
  | otherFile path module scene => exact load_extends ..

theorem ReadFrom.follow (kept : l.ReadFrom texts)
    (given : ∀ key w text, (read key w).1 = .ok text → texts key text) :
    (l.follow read origin target w).loader.ReadFrom texts := by
  cases target with
  | sameFile module scene => exact kept
  | otherFile path module scene => exact kept.load read _ w given

theorem follow_plays (kept : (l.follow read origin target w).loader.ReadFrom texts)
    (plays : l.Plays origin.file) {found : Found}
    (ok : (l.follow read origin target w).result = .ok found) :
    (l.follow read origin target w).loader.Plays found.address.file := by
  cases target with
  | sameFile module scene =>
    have same : found.address.file = origin.file := lookupFrom_file kept ok
    exact same ▸ plays
  | otherFile path module scene => exact resolve_plays kept ok

theorem follow_code (kept : (l.follow read origin target w).loader.ReadFrom texts)
    (plays : l.Plays origin.file) {f : Failure}
    (failed : (l.follow read origin target w).result = .error f) : NotFound f.code := by
  cases target with
  | sameFile module scene =>
    rcases lookupFrom_code plays failed with code | code
    · exact .inr (.inr (.inr (.inr (.inl code))))
    · exact .inr (.inr (.inr (.inr (.inr code))))
  | otherFile path module scene => exact resolve_code kept failed

end Follow

end Loader

end Gamebook
