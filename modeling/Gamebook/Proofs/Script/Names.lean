import Gamebook.Proofs.Address
import Gamebook.Proofs.Script.Writable

/-! # The names in a script

Reading goes on after an error, so there is a script for every source. Whatever is wrong with the
source, all modules, scenes and targets of the script took their names from tokens that are names,
and no colon is part of one.
-/

namespace Gamebook

/-- The names by which a target calls a module and a scene. -/
def Target.names : Target → List Text
  | .sameFile module scene => module.toList ++ [scene]
  | .otherFile _ module scene => [module, scene]

/-- The name of a scene and those that its branches lead to. -/
def Scene.names (s : Scene) : List Text :=
  s.name :: s.branches.flatMap fun b => b.target.names

def Module.names (m : Module) : List Text :=
  m.name :: m.scenes.flatMap Scene.names

/-- All names of modules and scenes that stand in a script. -/
def Script.names (s : Script) : List Text :=
  s.modules.flatMap Module.names

theorem Target.Writable.isName {x : Target} (writable : x.Writable) :
    ∀ name ∈ x.names, name.IsName := by
  cases x with
  | sameFile module scene =>
    obtain ⟨isModule, isScene⟩ := writable
    exact List.forall_mem_append.mpr ⟨by simpa using isModule, by simpa using isScene⟩
  | otherFile path module scene =>
    obtain ⟨-, -, isModule, isScene⟩ := writable
    simpa [names] using ⟨isModule, isScene⟩

namespace Reading

variable {stop : Token} {ts rest : List Token}

/-! ## Inside a scene -/

theorem select_named {key : Token} {bs : List Branch} (isSelect : key.kind = .select)
    (spelled : ∀ t ∈ key :: ts, t.IsSpelled) (ok : select stop ts = .ok (bs, rest)) :
    ∀ b ∈ bs, ∀ name ∈ b.target.names, name.IsName := by
  intro b member
  obtain ⟨us, split, isPart⟩ := select_sound isSelect ok (List.ne_nil_of_mem member)
  rw [split] at spelled
  have writable := (isPart.writable (List.forall_mem_append.mp spelled).1).1 b member
  exact writable.target.isName

/-- That the branches of a draft lead to what has a name. -/
def Draft.Named (d : Draft) : Prop :=
  ∀ offered ∈ d.select, ∀ b ∈ offered.2, ∀ name ∈ b.target.names, name.IsName

/-- Whatever is found in a body, the branches that are kept lead to what has a name. -/
theorem body_named {scene : Text} {draft : Draft} (spelled : ∀ t ∈ ts, t.IsSpelled)
    (named : draft.Named) : ∀ d ∈ (body stop scene draft ts).1, d.Named := by
  have further {t : Token} {rest left : List Token} (suffix : left <:+ rest)
      (spelled : ∀ u ∈ t :: rest, u.IsSpelled) : ∀ u ∈ left, u.IsSpelled :=
    fun u member => spelled u (List.mem_cons_of_mem t (suffix.subset member))
  have offering {draft : Draft} {pos : Pos} {bs : List Branch}
      (are : ∀ b ∈ bs, ∀ name ∈ b.target.names, name.IsName) :
      ({ draft with select := some (pos, bs) } : Draft).Named := by
    rintro _ ⟨⟩
    exact are
  fun_induction body stop scene draft ts with
  | case1 => simpa using named
  | case2 => simp
  | case3 draft t rest _ e left read ih =>
    exact ih (further ((effect_within t).left _ _ read) spelled) named
  | case4 => simp
  | case5 draft t rest _ _ told left read _ result findings eq ih =>
    rw [eq] at ih
    exact ih (further (flavortext_within.left _ _ read) spelled) named
  | case6 draft t rest _ _ told left read _ ih =>
    exact ih (further (flavortext_within.left _ _ read) spelled) named
  | case7 => simp
  | case8 draft t rest _ _ _ bs left read first _ _ result findings eq ih =>
    rw [eq] at ih
    exact ih (further (select_within.left _ _ read) spelled) named
  | case9 draft t rest _ _ isSelect bs left read _ result findings eq _ ih
  | case10 draft t rest _ _ isSelect bs left read _ result findings eq _ ih =>
    rw [eq] at ih
    exact ih (further (select_within.left _ _ read) spelled)
      (offering (select_named isSelect spelled read))
  | case11 => simp

theorem sceneWithin_named {start : Token} {inside : List Token}
    (spelled : ∀ t ∈ inside, t.IsSpelled) :
    ∀ s ∈ (sceneWithin start stop inside rest).1, ∀ name ∈ s.names, name.IsName := by
  cases read : expect stop .name "after @scene" inside with
  | error finding => simp [sceneWithin, read]
  | ok named =>
    obtain ⟨name, afterName⟩ := named
    obtain ⟨rfl, isName⟩ := expect_eq_ok_iff.mp read
    obtain ⟨first, others⟩ := List.forall_mem_cons.mp spelled
    have suffix := colon_suffix stop "after scene name" afterName
    have drafted : ∀ d ∈ (body stop name.lexeme {} (colon stop "after scene name" afterName).2).1,
        d.Named :=
      body_named (fun t member => others t (suffix.subset member)) (by simp [Draft.Named])
    have called := first.isName isName
    simp only [sceneWithin, read]
    split
    · simp
    · next draft result =>
      have drafted := drafted draft result
      split
      · next pos bs offered =>
        rintro _ ⟨⟩
        refine List.forall_mem_cons.mpr ⟨called, List.forall_mem_flatMap.mpr ?_⟩
        exact drafted _ offered
      · rintro _ ⟨⟩
        simpa [Scene.names] using called

/-! ## Between scenes -/

theorem seek_suffix (accepts : Kind → Bool) (ts : List Token) : seek accepts ts <:+ ts :=
  List.dropWhile_suffix _

theorem skip_suffix (kind : Kind) (ts : List Token) : skip kind ts <:+ ts := by
  obtain ⟨closing, split, -⟩ := skip_sound kind ts
  exact ⟨closing, split.symm⟩

theorem scene_suffix (last start : Token) (ts : List Token) :
    (scene last start ts).2.2 <:+ ts := by
  obtain ⟨closing, split, -⟩ := closeScene_sound (seek Kind.isBoundary ts)
  exact List.IsSuffix.trans ⟨closing, split.symm⟩ (seek_suffix Kind.isBoundary ts)

theorem scene_named (last start : Token) (spelled : ∀ t ∈ ts, t.IsSpelled) :
    ∀ s ∈ (scene last start ts).1, ∀ name ∈ s.names, name.IsName :=
  sceneWithin_named fun t member => spelled t ((List.takeWhile_sublist _).subset member)

theorem closeModule_suffix (name : Text) (start : Pos) (ts : List Token) :
    (closeModule name start ts).2 <:+ ts := by
  obtain ⟨closing, split, -⟩ := closeModule_sound name start ts
  exact ⟨closing, split.symm⟩

theorem scenes_suffix (last : Token) (module : Text) (start : Pos) (seen : List Scene)
    (ts : List Token) : (scenes last module start seen ts).2.2 <:+ ts := by
  have behind {t : Token} {rest after left : List Token} {scene? : Option Scene}
      {findings : List Finding} (read : scene last t rest = (scene?, findings, after))
      (further : left <:+ after) : left <:+ t :: rest := by
    have suffix := scene_suffix last t rest
    rw [read] at suffix
    exact (further.trans suffix).trans (List.suffix_cons ..)
  fun_induction scenes last module start seen ts with
  | case1 => exact List.suffix_rfl
  | case2 seen t rest _ findings after read found more left eq _ ih
  | case3 seen t rest _ findings after s read first _ found more left eq _ ih
  | case4 seen t rest _ findings after s read _ found more left eq _ ih =>
    rw [eq] at ih
    exact behind read ih
  | case5 seen t rest _ _ warnings left eq =>
    have suffix := closeModule_suffix module start rest
    rw [eq] at suffix
    exact suffix.trans (List.suffix_cons ..)
  | case6 => exact List.suffix_rfl
  | case7 seen t rest _ _ _ found more left eq ih =>
    rw [eq] at ih
    exact (ih.trans (seek_suffix ..)).trans (List.suffix_cons ..)

theorem scenes_named {last : Token} {module : Text} {start : Pos} {seen : List Scene}
    (spelled : ∀ t ∈ ts, t.IsSpelled) (named : ∀ s ∈ seen, ∀ name ∈ s.names, name.IsName) :
    ∀ s ∈ (scenes last module start seen ts).1, ∀ name ∈ s.names, name.IsName := by
  have behind {t : Token} {rest after : List Token} {scene? : Option Scene}
      {findings : List Finding} (read : scene last t rest = (scene?, findings, after))
      (spelled : ∀ u ∈ t :: rest, u.IsSpelled) :
      (∀ s ∈ scene?, ∀ name ∈ s.names, name.IsName) ∧ ∀ u ∈ after, u.IsSpelled := by
    have others := (List.forall_mem_cons.mp spelled).2
    have suffix := scene_suffix last t rest
    have called := scene_named last t others
    rw [read] at suffix called
    exact ⟨called, fun u member => others u (suffix.subset member)⟩
  fun_induction scenes last module start seen ts with
  | case1 => exact named
  | case2 seen t rest _ findings after read found more left eq _ ih
  | case3 seen t rest _ findings after s read first _ found more left eq _ ih =>
    rw [eq] at ih
    exact ih (behind read spelled).2 named
  | case4 seen t rest _ findings after s read _ found more left eq _ ih =>
    rw [eq] at ih
    obtain ⟨called, left⟩ := behind read spelled
    exact ih left (List.forall_mem_append.mpr ⟨named, by simpa using called⟩)
  | case5 => exact named
  | case6 => exact named
  | case7 seen t rest _ _ _ found more left eq ih =>
    rw [eq] at ih
    have others := (List.forall_mem_cons.mp spelled).2
    exact ih (fun u member => others u ((seek_suffix ..).subset member)) named

theorem closeNameless_suffix (ts : List Token) : closeNameless ts <:+ ts := by
  cases ts with
  | nil => exact List.suffix_rfl
  | cons t rest =>
    rw [closeNameless]
    split
    · exact ((skip_suffix ..).trans (skip_suffix ..)).trans (List.suffix_cons ..)
    · exact List.suffix_rfl

theorem module_suffix (last start : Token) (file : Text) (ts : List Token) :
    (module last file start ts).2.2 <:+ ts := by
  unfold module
  split
  · exact (closeNameless_suffix _).trans (seek_suffix ..)
  · next name rest read =>
    have further := (expect_within ..).left _ _ read
    exact (scenes_suffix ..).trans ((colon_suffix ..).trans further)

/-- A module that is read has a name, and so has everything in it. -/
theorem module_named (last start : Token) (file : Text) (spelled : ∀ t ∈ ts, t.IsSpelled) :
    ∀ m ∈ (module last file start ts).1, ∀ name ∈ m.names, name.IsName := by
  cases read : expect last .name "after @module" ts with
  | error finding => simp [module, read]
  | ok named =>
    obtain ⟨name, afterName⟩ := named
    obtain ⟨rfl, isName⟩ := expect_eq_ok_iff.mp read
    obtain ⟨first, others⟩ := List.forall_mem_cons.mp spelled
    have suffix := colon_suffix last "after module name" afterName
    simp only [module, read]
    rintro _ ⟨⟩
    refine List.forall_mem_cons.mpr ⟨first.isName isName, List.forall_mem_flatMap.mpr ?_⟩
    exact scenes_named (fun t member => others t (suffix.subset member)) (by simp)

theorem modules_named {last : Token} {file : Text} {seen : List Module}
    (spelled : ∀ t ∈ ts, t.IsSpelled) (named : ∀ m ∈ seen, ∀ name ∈ m.names, name.IsName) :
    ∀ m ∈ (modules last file seen ts).1, ∀ name ∈ m.names, name.IsName := by
  have behind {t : Token} {rest after : List Token} {module? : Option Module}
      {findings : List Finding} (read : module last file t rest = (module?, findings, after))
      (spelled : ∀ u ∈ t :: rest, u.IsSpelled) :
      (∀ m ∈ module?, ∀ name ∈ m.names, name.IsName) ∧ ∀ u ∈ after, u.IsSpelled := by
    have others := (List.forall_mem_cons.mp spelled).2
    have suffix := module_suffix last t file rest
    have called := module_named last t file others
    rw [read] at suffix called
    exact ⟨called, fun u member => others u (suffix.subset member)⟩
  fun_induction modules last file seen ts with
  | case1 => exact named
  | case2 seen t rest _ findings after read found more eq _ ih
  | case3 seen t rest _ findings after m read first _ found more eq _ ih =>
    rw [eq] at ih
    exact ih (behind read spelled).2 named
  | case4 seen t rest _ findings after m read _ found more eq _ ih =>
    rw [eq] at ih
    obtain ⟨called, left⟩ := behind read spelled
    exact ih left (List.forall_mem_append.mpr ⟨named, by simpa using called⟩)
  | case5 seen t rest _ found more eq ih =>
    rw [eq] at ih
    have others := (List.forall_mem_cons.mp spelled).2
    exact ih (fun u member => others u ((seek_suffix ..).subset member)) named

end Reading

/-! ## In a whole script -/

/-- Every name in a script that was read is one, also if the source has errors. -/
theorem Script.isName_of_parse (s : Source) : ∀ name ∈ (Script.parse s).1.names, name.IsName :=
  List.forall_mem_flatMap.mpr
    (Reading.modules_named (fun _ => Source.spelled_of_mem_tokens) (by simp))

theorem Rune.mem_decode_of_lt {b : UInt8} {t : Text} (small : b.toNat < 0x80) (member : b ∈ t) :
    .char (Char.ofNat b.toNat) ∈ decode t := by
  obtain ⟨before, after, rfl⟩ := List.append_of_mem member
  rw [decode_append_cons_of_lt before small, decode_cons_of_lt small]
  simp

/-- No colon is part of a word. -/
theorem Text.IsWord.colon_notMem {t : Text} {kind : Kind} (word : t.IsWord kind) : colon ∉ t := by
  obtain ⟨r, rs, rfl, starts, inside⟩ := word.runes
  have all : ∀ x ∈ r :: rs, x.inName :=
    List.forall_mem_cons.mpr ⟨Source.inName_of_startsName starts, inside⟩
  intro member
  have read := Rune.mem_decode_of_lt (by decide) member
  rw [Rune.decode_encodeAll fun x here => Rune.isChar_of_inName (all x here)] at read
  exact absurd (all _ read) (by decide)

end Gamebook
