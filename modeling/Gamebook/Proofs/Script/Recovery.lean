import Gamebook.Proofs.Script.Placement
import Gamebook.Proofs.Script.Streaming

/-! # Errors stay in the scene that they are in

A scene that is damaged between its colon and the boundary that closes it is read as something else
or dropped, and everything that is found is found at its tokens or at the boundary. All other scenes
and modules are read as before, because reading goes on at the boundary in the same state.
-/

namespace Gamebook

open Grammar

namespace Reading

/-- What is found in a scene is found at one of its tokens or at the boundary behind it. The scene
    that is read has the name that stands in front of the colon. -/
theorem sceneWithin_at {start stop name mark : Token} (isName : name.kind = .name)
    (isColon : mark.kind = .colon) (inside rest : List Token) :
    (∀ f ∈ (sceneWithin start stop (name :: mark :: inside) rest).2,
      f.pos ∈ (start :: name :: mark :: inside ++ [stop]).map Token.pos) ∧
    ∀ s ∈ (sceneWithin start stop (name :: mark :: inside) rest).1, s.name = name.lexeme := by
  have found : ∀ f ∈ (body stop name.lexeme {} inside).2,
      f.pos ∈ (start :: name :: mark :: inside ++ [stop]).map Token.pos := by
    intro f member
    exact ((body_within _ _ f member).mono ⟨[start, name, mark], rfl⟩).pos_mem
  simp only [sceneWithin, expect_cons isName, colon, expect_cons isColon, List.nil_append]
  split
  · exact ⟨found, by simp⟩
  · split
    · exact ⟨found, by simp⟩
    · refine ⟨List.forall_mem_append.mpr ⟨found, ?_⟩, by simp⟩
      simp

end Reading

/-! ## The tokens of a scene among others -/

namespace Grammar

/-- A token of two lists in a row is one of the first or one of the second. -/
theorem append_eq_append_cons {us us' before after : List Token} {t : Token}
    (whole : us ++ us' = before ++ t :: after) :
    (∃ vs, us = before ++ t :: vs ∧ after = vs ++ us') ∨
      ∃ vs, before = us ++ vs ∧ us' = vs ++ t :: after := by
  rcases List.append_eq_append_iff.mp whole with ⟨vs, rfl, rfl⟩ | ⟨vs, rfl, rest⟩
  · exact .inr ⟨vs, rfl, rfl⟩
  · cases vs with
    | nil => exact .inr ⟨[], by simp, by simpa using rest.symm⟩
    | cons first vs =>
      obtain ⟨rfl, rfl⟩ := List.cons.inj rest
      exact .inl ⟨vs, rfl, rfl⟩

/-- Of things one after the other, the one that has a given token. -/
theorem Each.cut {α : Type} {Is : List Token → α → Prop} {before after : List Token} {t : Token}
    {as : List α} (each : Each Is (before ++ t :: after) as) :
    ∃ us vs vs' us' front a back, before = us ++ vs ∧ after = vs' ++ us' ∧
      as = front ++ a :: back ∧ Each Is us front ∧ Is (vs ++ t :: vs') a ∧ Each Is us' back := by
  generalize whole : before ++ t :: after = ts at each
  induction each generalizing before with
  | nil => simp at whole
  | @cons us us' a as is each ih =>
    rcases append_eq_append_cons whole.symm with ⟨vs, rfl, rfl⟩ | ⟨vs, rfl, rfl⟩
    · exact ⟨[], before, vs, us', [], a, as, rfl, rfl, rfl, .nil, is, each⟩
    · obtain ⟨us', vs, vs', us'', front, b, back, rfl, rfl, rfl, others, isB, rest⟩ := ih rfl
      exact ⟨us ++ us', vs, vs', us'', a :: front, b, back, by simp, rfl, rfl, .cons is others, isB,
        rest⟩

theorem ne_of_ending {closing : List Token} {endings : List (List Kind)} {kind : Kind}
    (ending : closing.map Token.kind ∈ endings) (none : ∀ ks ∈ endings, kind ∉ ks) :
    ∀ t ∈ closing, t.kind ≠ kind :=
  fun _ member same => none _ ending (same ▸ List.mem_map_of_mem member)

/-- A scene has one keyword of scenes only, at its beginning. -/
theorem isScene_cut {vs vs' : List Token} {t : Token} {tree : SceneTree}
    (is : IsScene (vs ++ t :: vs') tree) (isStart : t.kind = .sceneStart) : vs = [] := by
  generalize whole : vs ++ t :: vs' = us at is
  cases is with
  | @scene key name mark ts closing parts opening each ending =>
    cases vs with
    | nil => rfl
    | cons first vs =>
      exfalso
      have rest : vs ++ t :: vs' = name :: mark :: ts ++ closing := (List.cons.inj whole).2
      have member : t ∈ name :: mark :: ts ++ closing := rest ▸ by simp
      rcases List.mem_append.mp member with inside | behind
      · have inner : Reading.Inner (name :: mark :: ts) :=
          (Reading.inner_of_kinds (List.cons.inj opening).2 (by decide)).append
            (Reading.inner_parts each)
        have bounds := inner t inside
        rw [isStart] at bounds
        cases bounds
      · exact ne_of_ending ending (by decide) t behind isStart

/-- A keyword of scenes in a module belongs to one of its scenes. -/
theorem isModule_cut {vs vs' : List Token} {t : Token} {tree : ModuleTree}
    (is : IsModule (vs ++ t :: vs') tree) (isStart : t.kind = .sceneStart) :
    ∃ key name mark us us' final closing,
      vs = key :: name :: mark :: us ∧ vs' = us' ++ final :: closing ∧
      [key, name, mark].map Token.kind = [.moduleStart, .name, .colon] ∧
      final.kind = .moduleEnd ∧
      closing.map Token.kind ∈ [[], [.name], [.semicolon], [.name, .semicolon]] ∧
      tree.name = name.lexeme ∧ tree.pos = key.pos ∧ Each IsScene (us ++ t :: us') tree.scenes := by
  generalize whole : vs ++ t :: vs' = ts at is
  cases is with
  | @module key name mark final ts closing scenes opening each isEnd ending =>
    rcases append_eq_append_cons whole.symm with ⟨us', front, rfl⟩ | ⟨us', rfl, behind⟩
    · -- None of the first three tokens is a keyword of scenes.
      rcases vs with _ | ⟨_, _ | ⟨_, _ | ⟨_, us⟩⟩⟩
      · obtain ⟨rfl, -⟩ := List.cons.inj front
        simp [isStart] at opening
      · obtain ⟨rfl, -⟩ := List.cons.inj (List.cons.inj front).2
        simp [isStart] at opening
      · obtain ⟨rfl, -⟩ := List.cons.inj (List.cons.inj (List.cons.inj front).2).2
        simp [isStart] at opening
      · simp only [List.cons_append, List.cons.injEq] at front
        obtain ⟨rfl, rfl, rfl, rfl⟩ := front
        exact ⟨_, _, _, us, us', final, closing, rfl, rfl, opening, isEnd, ending, rfl, rfl, each⟩
    · exfalso
      have member : t ∈ final :: closing := behind ▸ by simp
      rcases List.mem_cons.mp member with rfl | member
      · simp [isStart] at isEnd
      · exact ne_of_ending ending (by decide) t member isStart

end Grammar

namespace Reading

/-- A scene among tokens: what stands before it, its keyword, name and colon, what is inside, and
    the boundary that closes it with all that follows. -/
structure SceneSite where
  before : List Token
  start : Token
  name : Token
  mark : Token
  inside : List Token
  stop : Token
  after : List Token
  opening : [start, name, mark].map Token.kind = [.sceneStart, .name, .colon]
  inner : Inner inside
  closes : stop.kind.isBoundary = true

namespace SceneSite

def tokens (c : SceneSite) : List Token :=
  c.before ++ c.start :: c.name :: c.mark :: (c.inside ++ c.stop :: c.after)

/-- The tokens of the scene, up to the boundary that closes it. -/
def span (c : SceneSite) : List Token :=
  c.start :: c.name :: c.mark :: c.inside ++ [c.stop]

/-- What is read of the scene, and what is found in it. -/
def read (c : SceneSite) : Option Scene × List Finding :=
  sceneWithin c.start c.stop (c.name :: c.mark :: c.inside) (closeScene (c.stop :: c.after))

/-- What stands outside the scene and in front of what is inside, wherever it stands. -/
def outside (c : SceneSite) : List (Kind × Text) × List (Kind × Text) :=
  ((c.before ++ [c.start, c.name, c.mark]).map Token.content, (c.stop :: c.after).map Token.content)

theorem contents_eq (c : SceneSite) :
    c.tokens.map Token.content = c.outside.1 ++ c.inside.map Token.content ++ c.outside.2 := by
  simp [tokens, outside]

/-- The same name stands in front of what is inside. -/
theorem name_of_outside {c d : SceneSite} (kept : c.outside = d.outside) :
    c.name.lexeme = d.name.lexeme := by
  have opening := congrArg Prod.fst kept
  rw [outside, outside, List.map_append, List.map_append] at opening
  obtain ⟨-, same⟩ := List.append_inj' opening rfl
  exact congrArg Prod.snd (List.cons.inj (List.cons.inj same).2).1

theorem kinds (c : SceneSite) :
    c.start.kind = .sceneStart ∧ c.name.kind = .name ∧ c.mark.kind = .colon := by
  simpa using c.opening

theorem bounded (c : SceneSite) : ∀ t ∈ (c.stop :: c.after).head?, t.kind.isBoundary = true := by
  simp [c.closes]

theorem read_at (c : SceneSite) :
    (∀ f ∈ c.read.2, f.IsError ∧ f.pos ∈ c.span.map Token.pos) ∧
      ∀ s ∈ c.read.1, s.name = c.name.lexeme := by
  obtain ⟨-, isName, isColon⟩ := c.kinds
  obtain ⟨found, named⟩ : (∀ f ∈ c.read.2, f.pos ∈ c.span.map Token.pos) ∧ _ :=
    sceneWithin_at isName isColon c.inside _
  exact ⟨fun f member => ⟨sceneWithin_isError _ _ _ _ f member, found f member⟩, named⟩

/-- A scene is read from its own tokens, and reading goes on at the boundary that closes it. -/
theorem scene_eq (c : SceneSite) (last : Token) :
    scene last c.start (c.name :: c.mark :: (c.inside ++ c.stop :: c.after)) =
      (c.read.1, c.read.2, closeScene (c.stop :: c.after)) := by
  obtain ⟨-, isName, isColon⟩ := c.kinds
  have inner : Inner (c.name :: c.mark :: c.inside) := .cons isName rfl (.cons isColon rfl c.inner)
  obtain ⟨inside, after⟩ := takeWhile_inner inner c.bounded
  rw [List.cons_append, List.cons_append] at inside after
  simp only [scene, inside, after]
  rfl

end SceneSite

/-- How the tokens around a scene make up a script of the grammar: the modules before and after the
    one that the scene is in, and the scenes before and after it there. -/
structure Standing where
  us : List Token
  front : List ModuleTree
  earlier : Each IsModule us front
  key : Token
  name : Token
  mark : Token
  opening : [key, name, mark].map Token.kind = [.moduleStart, .name, .colon]
  vs : List Token
  ss : List SceneTree
  preceding : Each IsScene vs ss
  closing : List Token
  ending : closing.map Token.kind ∈ [[], [.sceneEnd], [.sceneEnd, .semicolon]]
  vs' : List Token
  ss' : List SceneTree
  following : Each IsScene vs' ss'
  final : Token
  isEnd : final.kind = .moduleEnd
  closing' : List Token
  ending' : closing'.map Token.kind ∈ [[], [.name], [.semicolon], [.name, .semicolon]]
  us' : List Token
  back : List ModuleTree
  later : Each IsModule us' back

namespace Standing

/-- The modules, where the scene is one with the given tree. -/
def trees (st : Standing) (tree : SceneTree) : List ModuleTree :=
  st.front ++ ⟨st.name.lexeme, st.key.pos, st.ss ++ tree :: st.ss'⟩ :: st.back

/-- The modules of a file, where the given scenes stand in the place of the scene. -/
def modulesWith (st : Standing) (file : Text) (inPlace : List Scene) : List Module :=
  st.front.map (ModuleTree.module file) ++
    ⟨st.name.lexeme, st.key.pos, file,
      st.ss.map SceneTree.scene ++ inPlace ++ st.ss'.map SceneTree.scene⟩ ::
      st.back.map (ModuleTree.module file)

/-- That a scene stands so. -/
structure Holds (st : Standing) (c : SceneSite) : Prop where
  before : c.before = st.us ++ st.key :: st.name :: st.mark :: st.vs
  rest : c.stop :: c.after = st.closing ++ (st.vs' ++ st.final :: (st.closing' ++ st.us'))

/-- Each scene among tokens of the grammar stands in a module among other scenes. -/
theorem exists_of_each (c : SceneSite) {trees : List ModuleTree}
    (each : Each IsModule c.tokens trees) :
    ∃ (st : Standing) (parts : List Part), st.Holds c ∧ Each IsPart c.inside parts ∧
      trees = st.trees ⟨c.name.lexeme, c.start.pos, parts⟩ := by
  obtain ⟨isStart, -, -⟩ := c.kinds
  obtain ⟨us, xs, xs', us', front, ⟨_, _, _⟩, back, before, after, rfl, earlier, isModule, later⟩ :=
    each.cut
  obtain ⟨key, name, mark, xs, ys, final, closing', rfl, rfl, opening, isEnd, ending', rfl, rfl,
    scenes⟩ := isModule_cut isModule isStart
  obtain ⟨vs, xs, ys, vs', ss, tree, ss', rfl, rfl, rfl, preceding, isScene, following⟩ := scenes.cut
  obtain rfl := isScene_cut isScene isStart
  generalize whole : [] ++ c.start :: ys = ts at isScene
  cases isScene with
  | @scene start name' mark' ts closing parts opening' inside ending =>
    obtain ⟨rfl, rfl⟩ : c.start = start ∧ ys = name' :: mark' :: ts ++ closing :=
      List.cons.inj whole
    simp only [List.cons_append, List.append_assoc, List.cons.injEq] at after
    obtain ⟨rfl, rfl, split⟩ := after
    have follow : ∀ t ∈ (vs' ++ final :: (closing' ++ us')).head?,
        t.kind = .sceneStart ∨ t.kind = .moduleEnd := scenes_head following (by simp [isEnd])
    -- What is inside ends at the boundary, on either side.
    obtain ⟨left, stop⟩ := takeWhile_inner c.inner c.bounded
    obtain ⟨left', stop'⟩ := takeWhile_inner (inner_parts inside) (isBoundary_of_ending ending follow)
    rw [split] at left stop
    rw [← left.symm.trans left'] at inside
    exact ⟨⟨us, front, earlier, key, name, mark, opening, vs, ss, preceding, closing, ending, vs', ss',
      following, final, isEnd, closing', ending', us', back, later⟩, parts,
      ⟨by simpa using before, stop.symm.trans stop'⟩, inside, rfl⟩

variable {st : Standing} {c : SceneSite}

/-- Whatever a scene is read as, the scenes after it are read as they are. -/
theorem Holds.scenes_eq (holds : st.Holds c) (last : Token)
    (propers : ∀ t ∈ st.ss ++ st.ss', t.Proper)
    (distinct : ((st.ss.map SceneTree.scene ++ c.read.1.toList ++
      st.ss'.map SceneTree.scene).map Scene.name).Nodup) :
    scenes last st.name.lexeme st.key.pos []
        (st.vs ++ c.start :: c.name :: c.mark :: (c.inside ++ c.stop :: c.after)) =
      (st.ss.map SceneTree.scene ++ c.read.1.toList ++ st.ss'.map SceneTree.scene,
        c.read.2 ++ (closeModule st.name.lexeme st.key.pos (st.closing' ++ st.us')).1,
        (closeModule st.name.lexeme st.key.pos (st.closing' ++ st.us')).2) := by
  obtain ⟨isStart, -, -⟩ := c.kinds
  obtain ⟨propers, propers'⟩ := List.forall_mem_append.mp propers
  have closed : closeScene (c.stop :: c.after) = st.vs' ++ st.final :: (st.closing' ++ st.us') := by
    rw [holds.rest]
    exact closeScene_complete st.ending (scenes_head st.following (by simp [st.isEnd]))
  have read := c.scene_eq last
  rw [closed] at read
  have first : (([] ++ st.ss.map SceneTree.scene).map Scene.name).Nodup := by
    rw [List.append_assoc, List.map_append] at distinct
    exact (List.nodup_append.mp distinct).1
  rw [scenes_append st.preceding propers first (by simp [isStart]), List.nil_append]
  cases what : c.read.1 with
  | none =>
    rw [what, Option.toList_none, List.append_nil] at distinct
    rw [what] at read
    rw [scenes_of_dropped read isStart, Reading.scenes_eq st.following propers' distinct st.isEnd]
    simp
  | some s =>
    rw [what, Option.toList_some] at distinct
    rw [what] at read
    have fresh := find?_of_nodup Scene.name (List.append_assoc .. ▸ distinct)
    rw [scenes_cons isStart read fresh,
      Reading.scenes_eq st.following propers' distinct st.isEnd]
    simp

theorem names_modulesWith (st : Standing) (file : Text) (inPlace : List Scene) (tree : SceneTree) :
    (st.modulesWith file inPlace).map Module.name = (st.trees tree).map ModuleTree.name := by
  simp [modulesWith, trees, ModuleTree.module, Function.comp_def]

/-- The module of a scene is read as it is, but for what the scene is read as. -/
theorem Holds.module_eq (holds : st.Holds c) {tree : SceneTree} (file : Text) (last : Token)
    (proper : ModuleTree.Proper ⟨st.name.lexeme, st.key.pos, st.ss ++ tree :: st.ss'⟩)
    (named : c.name.lexeme = tree.name) :
    ∃ ts, c.tokens = st.us ++ st.key :: ts ∧ module last file st.key ts =
      (some ⟨st.name.lexeme, st.key.pos, file,
          st.ss.map SceneTree.scene ++ c.read.1.toList ++ st.ss'.map SceneTree.scene⟩,
        c.read.2 ++ (closeModule st.name.lexeme st.key.pos (st.closing' ++ st.us')).1, st.us') := by
  obtain ⟨-, isName, isColon⟩ : st.key.kind = .moduleStart ∧ st.name.kind = .name ∧
      st.mark.kind = .colon := by simpa using st.opening
  obtain ⟨propers, distinct⟩ := proper
  have others : ∀ t ∈ st.ss ++ st.ss', t.Proper := fun t member =>
    propers t (List.mem_append.mpr ((List.mem_append.mp member).imp_right (List.mem_cons_of_mem _)))
  -- The name of the scene is not used again, so that it does not matter whether it is dropped.
  have inPlace : (c.read.1.toList.map Scene.name).Sublist [tree.name] := by
    cases what : c.read.1 with
    | none => exact List.nil_sublist _
    | some s => simp [c.read_at.2 s what, named]
  have names : ((st.ss.map SceneTree.scene ++ c.read.1.toList ++
      st.ss'.map SceneTree.scene).map Scene.name).Nodup := by
    refine distinct.sublist ?_
    rw [List.map_append, List.map_append, names_scene, names_scene, List.append_assoc,
      List.map_append, List.map_cons]
    exact (List.Sublist.refl _).append (inPlace.append (List.Sublist.refl _))
  have left : (closeModule st.name.lexeme st.key.pos (st.closing' ++ st.us')).2 = st.us' := by
    have last : ∀ t ∈ ([] : List Token).head?, t.kind = .moduleStart := by simp
    have follow := modules_head st.later last
    rw [List.append_nil] at follow
    exact closeModule_complete st.ending' follow
  refine ⟨st.name :: st.mark :: (st.vs ++ c.start :: c.name :: c.mark ::
    (c.inside ++ c.stop :: c.after)), by simp [SceneSite.tokens, holds.before], ?_⟩
  simp [module, expect_cons isName, colon, expect_cons isColon, holds.scenes_eq last others names,
    left]

/-- Whatever a scene is read as, the modules around it are read as they are, and what is said of
    them is the same. -/
theorem modules_eq (st : Standing) (file : Text) {tree : SceneTree}
    (propers : ∀ t ∈ st.trees tree, t.Proper)
    (distinct : ((st.trees tree).map ModuleTree.name).Nodup) :
    ∃ warnings warnings', Clean warnings ∧ Clean warnings' ∧ ∀ c last, st.Holds c →
      c.name.lexeme = tree.name →
        (modules last file [] c.tokens).1 = st.modulesWith file c.read.1.toList ∧
        (modules last file [] c.tokens).2.map (Finding.diagnostic file) =
          (warnings ++ c.read.2 ++ warnings').map (Finding.diagnostic file) := by
  obtain ⟨propersFront, propers⟩ := List.forall_mem_append.mp propers
  obtain ⟨proper, propersBack⟩ := List.forall_mem_cons.mp propers
  have isKey : st.key.kind = .moduleStart := (List.cons.inj st.opening).1
  obtain ⟨warnings, clean, readFront⟩ := modules_append file st.earlier propersFront
  obtain ⟨warnings', clean', readBack⟩ := modules_append file st.later propersBack
  have own := closeModule_clean st.name.lexeme st.key.pos (st.closing' ++ st.us')
  refine ⟨warnings, _, clean, clean_append.mpr ⟨own, clean'⟩, fun c last holds named => ?_⟩
  obtain ⟨ts, whole, read⟩ := holds.module_eq file last proper named
  rw [← st.names_modulesWith file c.read.1.toList, modulesWith] at distinct
  have fresh := find?_of_nodup Module.name distinct
  have front : (([] ++ st.front.map (ModuleTree.module file)).map Module.name).Nodup := by
    rw [List.map_append] at distinct
    exact (List.nodup_append.mp distinct).1
  obtain ⟨found, said⟩ := readFront last [] (st.key :: ts) front (by simp [isKey])
  rw [List.nil_append, modules_cons isKey read fresh] at found said
  rw [List.append_cons] at distinct
  obtain ⟨found', said'⟩ := readBack last _ [] distinct (by simp)
  rw [List.append_nil] at found' said'
  rw [modules] at found' said'
  rw [whole]
  constructor
  · rw [found, found']
    simp [modulesWith]
  · rw [said, List.map_append, said']
    simp

/-- A scene among tokens that are read without errors can be replaced, and nothing but what it is
    read as and what is found in it changes. -/
theorem exists_of_clean {c : SceneSite} {last : Token} {file : Text}
    (clean : Clean (modules last file [] c.tokens).2) :
    ∃ (st : Standing) (s : Scene) (warnings warnings' : List Finding), c.read = (some s, []) ∧
      Clean warnings ∧ Clean warnings' ∧ ∀ (d : SceneSite) (last : Token), d.before = c.before →
        d.name.lexeme = c.name.lexeme → d.stop :: d.after = c.stop :: c.after →
          (modules last file [] d.tokens).1 = st.modulesWith file d.read.1.toList ∧
          (modules last file [] d.tokens).2.map (Finding.diagnostic file) =
            (warnings ++ d.read.2 ++ warnings').map (Finding.diagnostic file) := by
  obtain ⟨trees, each, propers, read, distinct⟩ := modules_sound clean List.nodup_nil
  rw [read, List.nil_append, names_module] at distinct
  obtain ⟨st, parts, holds, inside, rfl⟩ := exists_of_each c each
  obtain ⟨warnings, warnings', quiet, quiet', reads⟩ := st.modules_eq file propers distinct
  have proper : SceneTree.Proper ⟨c.name.lexeme, c.start.pos, parts⟩ := by
    have own := propers _ (List.mem_append_right _ List.mem_cons_self)
    exact own.1 _ (List.mem_append_right _ List.mem_cons_self)
  refine ⟨st, _, warnings, warnings', sceneWithin_complete (by simpa using c.kinds.2) inside proper,
    quiet, quiet', fun d last before named rest => ?_⟩
  exact reads d last ⟨before.trans holds.before, rest.trans holds.rest⟩ named

theorem anywhere_modulesWith (st : Standing) (file : Text) (inPlace : List Scene) :
    (st.modulesWith file inPlace).map Module.anywhere =
      st.front.map (Module.anywhere ∘ ModuleTree.module file) ++
        ⟨st.name.lexeme, .start, file,
          st.ss.map (Scene.unplaced ∘ SceneTree.scene) ++ inPlace.map Scene.unplaced ++
            st.ss'.map (Scene.unplaced ∘ SceneTree.scene)⟩ ::
          st.back.map (Module.anywhere ∘ ModuleTree.module file) := by
  simp [modulesWith, Module.anywhere]

end Standing

/-- Tokens with the same kinds and texts are read alike. -/
theorem modules_of_contents_eq {ts us : List Token} (same : ts.map Token.content = us.map Token.content)
    (last : Token) (file : Text) :
    (modules last file [] ts).1.map Module.anywhere =
        (modules last file [] us).1.map Module.anywhere ∧
      (modules last file [] ts).2.map Finding.unplaced =
        (modules last file [] us).2.map Finding.unplaced := by
  have unplaced (ts : List Token) : ts.map Token.unplaced =
      (ts.map Token.content).map fun (kind, lexeme) => ⟨kind, lexeme, .start⟩ := by
    rw [List.map_map]
    rfl
  have moved : ts.map Token.unplaced = us.map Token.unplaced := by
    rw [unplaced, same, ← unplaced]
  have left := modules_unplaced last file [] ts
  rw [moved, modules_unplaced last file [] us] at left
  obtain ⟨first, second⟩ := Prod.mk.inj left
  exact ⟨first.symm, second.symm⟩

theorem clean_of_unplaced {findings more : List Finding} (clean : Clean findings)
    (same : findings.map Finding.unplaced = more.map Finding.unplaced) : Clean more := by
  intro f member
  have moved : f.unplaced ∈ findings.map Finding.unplaced := same ▸ List.mem_map_of_mem member
  obtain ⟨g, earlier, eq⟩ := List.mem_map.mp moved
  have severity : g.unplaced.severity = f.unplaced.severity := by rw [eq]
  exact fun isError => clean g earlier (severity.trans isError)

theorem map_diagnostic_unplaced (file : Text) (findings : List Finding) :
    (findings.map (Finding.diagnostic file)).map Diagnostic.unplaced =
      (findings.map Finding.unplaced).map (Finding.diagnostic file) := by
  rw [List.map_map, List.map_map]
  rfl

theorem warnings_eq_nil {findings : List Finding} (errors : ∀ f ∈ findings, f.severity = .error)
    (file : Text) : Diagnostic.warnings (findings.map (Finding.diagnostic file)) = [] := by
  simp only [Diagnostic.warnings, List.filter_eq_nil_iff, List.forall_mem_map]
  intro f member
  simp [Finding.diagnostic, errors f member]

/-- Among findings without errors around them, the errors are found in the middle. -/
theorem mem_errors {before findings after : List Finding} (quiet : Clean before)
    (quiet' : Clean after) {file : Text} {d : Diagnostic}
    (member : d ∈ Diagnostic.errors ((before ++ findings ++ after).map (Finding.diagnostic file))) :
    ∃ f ∈ findings, Finding.diagnostic file f = d := by
  obtain ⟨told, severe⟩ := List.mem_filter.mp member
  obtain ⟨f, anywhere, rfl⟩ := List.mem_map.mp told
  have isError : f.severity = .error := of_decide_eq_true severe
  rcases List.mem_append.mp anywhere with upToHere | behind
  · rcases List.mem_append.mp upToHere with early | inside
    · exact absurd isError (quiet f early)
    · exact ⟨f, inside, rfl⟩
  · exact absurd isError (quiet' f behind)

end Reading

open Reading

theorem Diagnostic.warnings_unplaced (ds : List Diagnostic) :
    (warnings ds).map unplaced = warnings (ds.map unplaced) := by
  rw [warnings, warnings, List.filter_map]
  rfl

/-- Let tokens be read without errors, and let what is inside a scene of theirs be overwritten with
    any tokens that bound no scene; the tokens around it may move. Then the same modules are read
    with the same scenes, but for the one that was overwritten, and with the same warnings. All
    errors are found from the keyword of that scene on up to the boundary that closes it. Sources of
    these tokens may also be read token by token: the same comes of it. -/
theorem errors_stay_in_scene {file : Text} {ts ts' : Source.Tokens} {c c' : SceneSite}
    (tokens : ts.list = c.tokens) (tokens' : ts'.list = c'.tokens) (kept : c.outside = c'.outside)
    (scanned : ts'.failure = none)
    (clean : Diagnostic.hasErrors (Script.ofTokens file ts).2 = false) :
    (∀ s : Source, s.failed = none → s.file = file →
      (s.tokens = ts → Pull.parse? s = some (Script.ofTokens file ts)) ∧
        (s.tokens = ts' → Pull.parse? s = some (Script.ofTokens file ts'))) ∧
    ∃ (front : List Module) (m : Module) (back : List Module) (ss : List Scene) (s : Scene)
      (ss' : List Scene) (inPlace : Option Scene),
      (Script.ofTokens file ts).1.modules.map Module.anywhere =
        front ++ { m with scenes := ss ++ s :: ss' } :: back ∧ s.name = c.name.lexeme ∧
      (Script.ofTokens file ts').1.modules.map Module.anywhere =
        front ++ { m with scenes := ss ++ inPlace.toList ++ ss' } :: back ∧
      (∀ d ∈ inPlace, d.name = c.name.lexeme) ∧
      (Diagnostic.warnings (Script.ofTokens file ts').2).map Diagnostic.unplaced =
        (Diagnostic.warnings (Script.ofTokens file ts).2).map Diagnostic.unplaced ∧
      ∀ d ∈ Diagnostic.errors (Script.ofTokens file ts').2,
        d.file = file ∧ d.problem.code = .structural ∧ d.pos ∈ c'.span.map Token.pos := by
  have scanned' := Script.scanned_of_ofTokens clean
  have quiet := (Script.hasErrors_ofTokens scanned').mp clean
  -- The scene as it was, put where the overwritten one stands.
  let intact : SceneSite := { c' with inside := c.inside, inner := c.inner }
  have contents : ts.list.map Token.content = intact.tokens.map Token.content := by
    rw [tokens, c.contents_eq, intact.contents_eq, kept]
    rfl
  have name := SceneSite.name_of_outside kept
  obtain ⟨found, said⟩ := modules_of_contents_eq contents ts.last file
  obtain ⟨st, s, warnings, warnings', asBefore, quiet, quiet', reads⟩ :=
    Standing.exists_of_clean (clean_of_unplaced quiet said)
  obtain ⟨whole, told⟩ := reads intact ts.last rfl rfl rfl
  obtain ⟨damaged, told'⟩ := reads c' ts'.last rfl rfl rfl
  simp only [asBefore, Option.toList_some, List.append_nil] at whole told
  rw [whole, st.anywhere_modulesWith] at found
  obtain ⟨located, named⟩ := c'.read_at
  refine ⟨fun s fresh named => ⟨?_, ?_⟩, ?_⟩
  · rintro rfl
    rw [Script.parse?_eq_parse s fresh, Script.parse, named]
  · rintro rfl
    rw [Script.parse?_eq_parse s fresh, Script.parse, named]
  rw [Script.ofTokens_of_scanned scanned, Script.ofTokens_of_scanned scanned', tokens']
  refine ⟨st.front.map (Module.anywhere ∘ ModuleTree.module file),
    ⟨st.name.lexeme, .start, file, []⟩, st.back.map (Module.anywhere ∘ ModuleTree.module file),
    st.ss.map (Scene.unplaced ∘ SceneTree.scene), s.unplaced,
    st.ss'.map (Scene.unplaced ∘ SceneTree.scene), c'.read.1.map Scene.unplaced, ?_, ?_, ?_, ?_, ?_, ?_⟩
  · rw [List.map_singleton, List.append_assoc, List.singleton_append] at found
    exact found
  · rw [name]
    exact intact.read_at.2 s (by simp [asBefore])
  · rw [damaged, st.anywhere_modulesWith, Option.toList_map]
  · intro d member
    obtain ⟨whole, read, rfl⟩ := Option.map_eq_some_iff.mp member
    exact (named whole read).trans name.symm
  · have noWarning := warnings_eq_nil (fun f member => (located f member).1.1) file
    rw [Diagnostic.warnings_unplaced (List.map _ (modules ts.last _ _ _).2),
      map_diagnostic_unplaced, said, ← map_diagnostic_unplaced, ← Diagnostic.warnings_unplaced, told,
      told']
    simp only [List.map_append, Diagnostic.warnings, List.filter_append] at noWarning ⊢
    rw [noWarning, List.map_nil, List.append_nil]
  · intro d member
    rw [told'] at member
    obtain ⟨f, inside, rfl⟩ := mem_errors quiet quiet' member
    obtain ⟨⟨-, structural⟩, here⟩ := located f inside
    exact ⟨rfl, structural, here⟩

/-- A brace in place of the branches of a scene: the scene is dropped, the scene after it is not, and
    the module still closes under another name. -/
theorem errors_stay_in_scene_brace :
    let token (kind : Kind) (lexeme : Text) (column : Int) : Token := ⟨kind, lexeme, ⟨1, column⟩⟩
    let before (column : Int) : List Token :=
      [token .moduleStart "@module" column, token .name "m" 9, token .colon ":" 10]
    let offer (column : Int) : List Token :=
      [token .select "select" column, token .leftBrace "\x7b" 30, token .string "go" 31,
        token .arrow "=>" 36, token .name "b" 39, token .rightBrace "\x7d" 40,
        token .semicolon ";" 41]
    let after (column : Int) : List Token :=
      [token .name "b" (column + 7), token .colon ":" (column + 8)] ++ offer (column + 9) ++
        [token .moduleEnd "@end-module" 90, token .name "n" 99]
    let scene (inside : List Token) (inner : Inner inside) (column : Int) : SceneSite :=
      { before := before 1, start := token .sceneStart "@scene" 12, name := token .name "a" 19
        mark := token .colon ":" 20, inside, stop := token .sceneStart "@scene" column
        after := after column, opening := rfl, inner, closes := rfl }
    let intact := scene (offer 21) (inner_of_kinds rfl (by decide)) 43
    let damaged := scene [token .rightBrace "\x7d" 21] (inner_of_kinds rfl (by decide)) 23
    let tokens (c : SceneSite) : Source.Tokens := ⟨c.tokens, token .endOfInput [] 200, none⟩
    let read (c : SceneSite) := Script.ofTokens "f" (tokens c)
    Diagnostic.hasErrors (read intact).2 = false ∧
      (read intact).1.modules.map (fun m => m.scenes.map Scene.name) = [[("a" : Text), ("b" : Text)]] ∧
      (read damaged).1.modules.map (fun m => m.scenes.map Scene.name) = [[("b" : Text)]] ∧
      (Diagnostic.warnings (read damaged).2).map Diagnostic.unplaced =
        (Diagnostic.warnings (read intact).2).map Diagnostic.unplaced ∧
      (Diagnostic.warnings (read intact).2).length = 1 ∧ Diagnostic.hasErrors (read damaged).2 = true ∧
      ∀ d ∈ Diagnostic.errors (read damaged).2, d.pos ∈ damaged.span.map Token.pos := by
  intro token before offer after scene intact damaged tokens read
  have clean : Diagnostic.hasErrors (read intact).2 = false := by decide +kernel
  obtain ⟨-, -, -, -, -, -, -, -, -, -, -, -, warned, located⟩ :=
    @errors_stay_in_scene "f" (tokens intact) (tokens damaged) intact damaged rfl rfl rfl rfl clean
  exact ⟨clean, by decide +kernel, by decide +kernel, warned, by decide +kernel, by decide +kernel,
    fun d member => (located d member).2.2⟩

end Gamebook
