import Gamebook.Proofs.Script.Soundness

/-! # What is in the grammar is read without errors

Each reader takes the tokens of its part from the front, whatever follows them, as long as it cannot
be taken for more of the same part.
-/

namespace Gamebook.Reading

open Grammar

variable {stop : Token} {us rest : List Token}

theorem expect_cons {wanted : Kind} {context : String} {t : Token} (kind : t.kind = wanted) :
    expect stop wanted context (t :: rest) = .ok (t, rest) :=
  expect_eq_ok_iff.mpr ⟨rfl, kind⟩

theorem target_complete {x : Target} (is : IsTarget us x)
    (follow : ∀ t ∈ rest.head?, t.kind ≠ .scope) : target stop (us ++ rest) = .ok (x, rest) := by
  cases is with
  | sameModule kinds =>
    simp only [List.map_cons, List.map_nil, List.cons.injEq, and_true] at kinds
    cases rest with
    | nil => simp [target, kinds]
    | cons t more => simp [target, kinds, follow t rfl]
  | sameFile kinds =>
    simp only [List.map_cons, List.map_nil, List.cons.injEq, and_true] at kinds
    obtain ⟨isModule, isScope, isScene⟩ := kinds
    simp [target, isModule, isScope, expect_cons isScene, bind, Except.bind, pure, Except.pure]
  | otherFile kinds somewhere =>
    simp only [List.map_cons, List.map_nil, List.cons.injEq, and_true] at kinds
    obtain ⟨isFile, isLeft, isPath, isRight, isScope, isModule, isScope', isScene⟩ := kinds
    simp [target, isFile, expect_cons isLeft, expect_cons isPath, expect_cons isRight,
      expect_cons isScope, expect_cons isModule, expect_cons isScope', expect_cons isScene,
      somewhere, bind, Except.bind, pure, Except.pure]

theorem condition_complete {c : Condition} (is : IsCondition us c) :
    condition stop (us ++ rest) = .ok (c, rest) := by
  cases is with
  | has kinds =>
    simp only [List.map_cons, List.map_nil, List.cons.injEq, and_true] at kinds
    obtain ⟨isHas, isItem⟩ := kinds
    simp [condition, expect_cons isHas, expect_cons isItem, isItem, bind, Except.bind, pure,
      Except.pure]
  | lacks kinds =>
    simp only [List.map_cons, List.map_nil, List.cons.injEq, and_true] at kinds
    obtain ⟨isHas, isNo, isItem⟩ := kinds
    simp [condition, expect_cons isHas, isNo, expect_cons isItem, bind, Except.bind, pure,
      Except.pure]

theorem guard_complete {cs : List Condition} (is : IsGuard us cs) :
    guard stop (us ++ rest) = .ok (cs, rest) := by
  induction is with
  | @last ts c mark condition question =>
    have read : Reading.condition stop (ts ++ mark :: rest) = .ok (c, mark :: rest) :=
      condition_complete condition
    rw [guard]
    split
    · next failed => simp [read] at failed
    · next c' left ok =>
      rw [List.append_assoc, List.singleton_append, read] at ok
      cases ok
      simp [question, expect_cons question, bind, Except.bind, pure, Except.pure]
  | @more ts us c cs mark condition comma guarded ih =>
    have read : Reading.condition stop (ts ++ mark :: (us ++ rest)) =
        .ok (c, mark :: (us ++ rest)) := condition_complete condition
    rw [guard]
    split
    · next failed => simp [read] at failed
    · next c' left ok =>
      rw [List.append_assoc, List.cons_append, read] at ok
      cases ok
      simp [comma, ih, bind, Except.bind, pure, Except.pure]

theorem guard_head {first : Token} {cs : List Condition} (is : IsGuard (first :: us) cs) :
    first.kind = .has := by
  have condition {ts : List Token} {c : Condition} (is : IsCondition ts c) (more : List Token)
      (whole : first :: us = ts ++ more) : first.kind = .has := by
    cases is with
    | has kinds =>
      obtain ⟨rfl, -⟩ := List.cons.inj whole
      exact (List.cons.inj kinds).1
    | lacks kinds =>
      obtain ⟨rfl, -⟩ := List.cons.inj whole
      exact (List.cons.inj kinds).1
  generalize whole : first :: us = ts at is
  cases is with
  | last is question => exact condition is _ whole
  | more is comma rest => exact condition is _ whole

/-- A branch begins with its guard or its label. -/
theorem branch_head {b : Branch} (is : IsBranch us b) :
    ∃ first more, us = first :: more ∧ (first.kind = .has ∨ first.kind = .string) := by
  cases is with
  | free kinds leads => exact ⟨_, _, rfl, .inr (List.cons.inj kinds).1⟩
  | guarded guard kinds leads => exact ⟨_, _, rfl, .inl (guard_head guard)⟩

theorem branch_complete {b : Branch} (is : IsBranch us b)
    (follow : ∀ t ∈ rest.head?, t.kind ≠ .scope) : branch stop (us ++ rest) = .ok (b, rest) := by
  cases is with
  | free kinds leads =>
    simp only [List.map_cons, List.map_nil, List.cons.injEq, and_true] at kinds
    obtain ⟨isLabel, isArrow⟩ := kinds
    simp [branch, optionalGuard, isLabel, expect_cons isLabel, expect_cons isArrow,
      target_complete leads follow, bind, Except.bind, pure, Except.pure]
  | @guarded first label arrow gs ts cs target guarded kinds leads =>
    simp only [List.map_cons, List.map_nil, List.cons.injEq, and_true] at kinds
    obtain ⟨isLabel, isArrow⟩ := kinds
    have read : guard stop (first :: gs ++ label :: arrow :: (ts ++ rest)) =
        .ok (cs, label :: arrow :: (ts ++ rest)) := guard_complete guarded
    rw [List.cons_append] at read
    simp [branch, optionalGuard, guard_head guarded, read, expect_cons isLabel, expect_cons isArrow,
      target_complete leads follow, bind, Except.bind, pure, Except.pure]

theorem branches_complete {bs : List Branch} (is : AreBranches us bs) {right : Token}
    (closes : right.kind = .rightBrace) :
    branches stop (us ++ right :: rest) = .ok (bs, right :: rest) := by
  -- The first token of a branch is not the closing brace, so a branch is read.
  have step {ts more : List Token} {b : Branch} (is : IsBranch ts b) :
      ¬((ts ++ more).headD stop).kind = .rightBrace := by
    obtain ⟨first, after, rfl, has | string⟩ := branch_head is
    · simp [has]
    · simp [string]
  induction is with
  | @last ts b isBranch =>
    have read : branch stop (ts ++ right :: rest) = .ok (b, right :: rest) :=
      branch_complete isBranch (by simp [closes])
    rw [branches, if_neg (step isBranch)]
    split
    · next failed => simp [read] at failed
    · next b' left ok =>
      rw [read] at ok
      cases ok
      simp [closes]
  | @lastComma ts b mark isBranch comma =>
    have read : branch stop (ts ++ mark :: right :: rest) = .ok (b, mark :: right :: rest) :=
      branch_complete isBranch (by simp [comma])
    have none : branches stop (right :: rest) = .ok ([], right :: rest) := by
      rw [branches]
      exact if_pos closes
    rw [List.append_assoc, branches, if_neg (step isBranch)]
    split
    · next failed => simp [read] at failed
    · next b' left ok =>
      rw [List.singleton_append, read] at ok
      cases ok
      simp [comma, none, bind, Except.bind, pure, Except.pure]
  | @more ts us b bs mark isBranch comma areBranches ih =>
    have read : branch stop (ts ++ mark :: (us ++ right :: rest)) =
        .ok (b, mark :: (us ++ right :: rest)) :=
      branch_complete isBranch (by simp [comma])
    rw [List.append_assoc, branches, if_neg (step isBranch)]
    split
    · next failed => simp [read] at failed
    · next b' left ok =>
      rw [List.cons_append, read] at ok
      cases ok
      simp [comma, ih, bind, Except.bind, pure, Except.pure]

theorem lines_complete {ls : List Text} (is : AreLines us ls) {right : Token}
    (closes : right.kind = .rightBrace) : lines (us ++ right :: rest) = (ls, right :: rest) := by
  induction is with
  | none =>
    cases rest with
    | nil => simp [lines, closes]
    | cons t more => simp [lines, closes]
  | @line t ts ls string areLines ih =>
    -- What follows is the next string or the closing brace, so no comma is taken with the string.
    obtain ⟨next, more, follow, other⟩ :
        ∃ next more, ts ++ right :: rest = next :: more ∧ next.kind ≠ .comma := by
      cases areLines with
      | none => exact ⟨right, rest, rfl, by simp [closes]⟩
      | line string' more => exact ⟨_, _, rfl, by simp [string']⟩
      | lineComma string' comma more => exact ⟨_, _, rfl, by simp [string']⟩
    rw [follow] at ih
    rw [List.cons_append, follow]
    simp [lines, string, other, ih]
  | @lineComma t mark ts ls string comma areLines ih => simp [lines, string, comma, ih]

theorem flavortext_complete {left right mark : Token} {ls : List Text}
    (isLeft : left.kind = .leftBrace) (is : AreLines us ls)
    (closing : [right, mark].map Token.kind = [.rightBrace, .semicolon]) :
    flavortext stop (left :: (us ++ right :: mark :: rest)) = .ok (ls, rest) := by
  simp only [List.map_cons, List.map_nil, List.cons.injEq, and_true] at closing
  obtain ⟨isRight, isMark⟩ := closing
  simp [flavortext, expect_cons isLeft, lines_complete is isRight, expect_cons isRight,
    expect_cons isMark, bind, Except.bind, pure, Except.pure]

theorem select_complete {left right mark : Token} {bs : List Branch}
    (isLeft : left.kind = .leftBrace) (are : AreBranches us bs)
    (closing : [right, mark].map Token.kind = [.rightBrace, .semicolon]) :
    select stop (left :: (us ++ right :: mark :: rest)) = .ok (bs, rest) := by
  simp only [List.map_cons, List.map_nil, List.cons.injEq, and_true] at closing
  obtain ⟨isRight, isMark⟩ := closing
  simp [select, expect_cons isLeft, branches_complete are isRight, expect_cons isRight,
    expect_cons isMark, bind, Except.bind, pure, Except.pure]

theorem ne_nil_of_areBranches {bs : List Branch} (are : AreBranches us bs) : bs ≠ [] := by
  cases are with
  | last is => exact List.cons_ne_nil _ _
  | lastComma is comma => exact List.cons_ne_nil _ _
  | more is comma rest => exact List.cons_ne_nil _ _

theorem effect_complete {key : Token} {e : Effect} (is : IsPart (key :: us) (.effect e)) :
    (key.kind = .get ∨ key.kind = .lose) ∧ effect stop key (us ++ rest) = .ok (e, rest) := by
  cases is with
  | get kinds =>
    simp only [List.map_cons, List.map_nil, List.cons.injEq, and_true] at kinds
    obtain ⟨isKey, isItem, isMark⟩ := kinds
    simp [effect, isKey, expect_cons isItem, expect_cons isMark, bind, Except.bind, pure,
      Except.pure]
  | lose kinds =>
    simp only [List.map_cons, List.map_nil, List.cons.injEq, and_true] at kinds
    obtain ⟨isKey, isItem, isMark⟩ := kinds
    simp [effect, isKey, expect_cons isItem, expect_cons isMark, bind, Except.bind, pure,
      Except.pure]

theorem body_effect {scene : Text} {draft : Draft} {key : Token} {e : Effect}
    (is : IsPart (key :: us) (.effect e)) :
    body stop scene draft (key :: us ++ rest) = body stop scene (draft.add (.effect e)) rest := by
  obtain ⟨isKey, read⟩ : _ ∧ effect stop key (us ++ rest) = .ok (e, rest) := effect_complete is
  rw [List.cons_append, body, if_pos isKey]
  split
  · next failed => simp [read] at failed
  · next ok =>
    rw [read] at ok
    cases ok
    rfl

/-- A part that the draft admits is read and added to it. -/
theorem body_part {scene : Text} {draft : Draft} {part : Part} {parts : List Part}
    (is : IsPart us part) (admits : draft.Admits (part :: parts)) :
    body stop scene draft (us ++ rest) = body stop scene (draft.add part) rest := by
  cases is with
  | get kinds => exact body_effect (.get kinds)
  | lose kinds => exact body_effect (.lose kinds)
  | @told key left right mark ts ls opening lines closing =>
    simp only [List.map_cons, List.map_nil, List.cons.injEq, and_true] at opening
    obtain ⟨isKey, isLeft⟩ := opening
    have read : flavortext stop (left :: (ts ++ right :: mark :: rest)) = .ok (ls, rest) :=
      flavortext_complete isLeft lines closing
    rw [List.cons_append, List.cons_append, body, if_neg (by simp [isKey]), if_pos isKey]
    split
    · next failed => simp [read] at failed
    · next ok =>
      simp only [List.cons_append, List.append_assoc, List.nil_append, read] at ok
      cases ok
      rw [if_neg (by simp [admits.1])]
      rfl
  | @select key left right mark ts bs opening branches closing =>
    simp only [List.map_cons, List.map_nil, List.cons.injEq, and_true] at opening
    obtain ⟨isKey, isLeft⟩ := opening
    have read : select stop (left :: (ts ++ right :: mark :: rest)) = .ok (bs, rest) :=
      select_complete isLeft branches closing
    have something := ne_nil_of_areBranches branches
    rw [List.cons_append, List.cons_append, body, if_neg (by simp [isKey]),
      if_neg (by simp [isKey]), if_pos isKey]
    split
    · next failed => simp [read] at failed
    · next ok =>
      simp only [List.cons_append, List.append_assoc, List.nil_append, read] at ok
      cases ok
      simp [admits.1, something, Draft.add]

/-- Parts that a draft admits are read without findings. -/
theorem body_complete {scene : Text} {draft : Draft} {parts : List Part}
    (each : Each IsPart us parts) (admits : draft.Admits parts) :
    body stop scene draft us = (some (parts.foldl Draft.add draft), []) := by
  induction each generalizing draft with
  | nil =>
    rw [body]
    rfl
  | @cons ts us part parts is each ih =>
    rw [body_part is admits]
    apply ih
    cases part with
    | effect e => exact admits
    | told lines => exact admits.2
    | select pos bs => exact admits.2

/-! Tokens inside a scene bound no scene, so a scene ends where its parts do. -/

/-- That no token bounds a scene. -/
def Inner (ts : List Token) : Prop :=
  ∀ t ∈ ts, t.kind.isBoundary = false

theorem inner_of_kinds {kinds : List Kind} (spelled : us.map Token.kind = kinds)
    (inner : ∀ k ∈ kinds, k.isBoundary = false) : Inner us := by
  intro t member
  rw [← spelled] at inner
  exact inner t.kind (List.mem_map_of_mem member)

theorem Inner.append {ts : List Token} (first : Inner us) (second : Inner ts) : Inner (us ++ ts) :=
  List.forall_mem_append.mpr ⟨first, second⟩

theorem Inner.cons {t : Token} {kind : Kind} (spelled : t.kind = kind)
    (inner : kind.isBoundary = false) (rest : Inner us) : Inner (t :: us) :=
  List.forall_mem_cons.mpr ⟨spelled ▸ inner, rest⟩

theorem inner_target {x : Target} (is : IsTarget us x) : Inner us := by
  cases is with
  | sameModule kinds => exact inner_of_kinds kinds (by decide)
  | sameFile kinds => exact inner_of_kinds kinds (by decide)
  | otherFile kinds somewhere => exact inner_of_kinds kinds (by decide)

theorem inner_guard {cs : List Condition} (is : IsGuard us cs) : Inner us := by
  have condition {ts : List Token} {c : Condition} (is : IsCondition ts c) : Inner ts := by
    cases is with
    | has kinds => exact inner_of_kinds kinds (by decide)
    | lacks kinds => exact inner_of_kinds kinds (by decide)
  induction is with
  | last is question => exact (condition is).append (.cons question rfl (by simp [Inner]))
  | more is comma rest ih => exact (condition is).append (.cons comma rfl ih)

theorem inner_branch {b : Branch} (is : IsBranch us b) : Inner us := by
  cases is with
  | free kinds leads => exact (inner_of_kinds kinds (by decide)).append (inner_target leads)
  | guarded guard kinds leads =>
    exact (inner_guard guard).append
      ((inner_of_kinds kinds (by decide)).append (inner_target leads))

theorem inner_branches {bs : List Branch} (are : AreBranches us bs) : Inner us := by
  induction are with
  | last is => exact inner_branch is
  | lastComma is comma => exact (inner_branch is).append (.cons comma rfl (by simp [Inner]))
  | more is comma rest ih => exact (inner_branch is).append (.cons comma rfl ih)

theorem inner_lines {ls : List Text} (are : AreLines us ls) : Inner us := by
  induction are with
  | none => simp [Inner]
  | line string rest ih => exact .cons string rfl ih
  | lineComma string comma rest ih => exact .cons string rfl (.cons comma rfl ih)

theorem inner_part {part : Part} (is : IsPart us part) : Inner us := by
  cases is with
  | get kinds => exact inner_of_kinds kinds (by decide)
  | lose kinds => exact inner_of_kinds kinds (by decide)
  | told opening lines closing =>
    exact ((inner_of_kinds opening (by decide)).append (inner_lines lines)).append
      (inner_of_kinds closing (by decide))
  | select opening branches closing =>
    exact ((inner_of_kinds opening (by decide)).append (inner_branches branches)).append
      (inner_of_kinds closing (by decide))

theorem inner_parts {parts : List Part} (each : Each IsPart us parts) : Inner us := by
  induction each with
  | nil => simp [Inner]
  | cons is each ih => exact (inner_part is).append ih

theorem takeWhile_inner {ts : List Token} (inner : Inner us)
    (follow : ∀ t ∈ ts.head?, t.kind.isBoundary = true) :
    (us ++ ts).takeWhile (!·.kind.isBoundary) = us ∧ seek Kind.isBoundary (us ++ ts) = ts := by
  have all : ∀ t ∈ us, (!t.kind.isBoundary) = true := fun t member => by simp [inner t member]
  rw [seek, List.takeWhile_append_of_pos all, List.dropWhile_append_of_pos all]
  cases ts with
  | nil => simp
  | cons t more => simp [follow t rfl]

theorem sceneWithin_complete {start name mark : Token} {parts : List Part}
    (kinds : [name, mark].map Token.kind = [.name, .colon]) (each : Each IsPart us parts)
    (proper : SceneTree.Proper ⟨name.lexeme, start.pos, parts⟩) :
    sceneWithin start stop (name :: mark :: us) rest =
      (some (SceneTree.scene ⟨name.lexeme, start.pos, parts⟩), []) := by
  simp only [List.map_cons, List.map_nil, List.cons.injEq, and_true] at kinds
  obtain ⟨isName, isColon⟩ := kinds
  obtain ⟨admits, offered⟩ := (Draft.proper_iff ..).mp proper
  obtain ⟨⟨pos, bs⟩, offered⟩ := Option.isSome_iff_exists.mp offered
  simp [sceneWithin, expect_cons isName, colon, expect_cons isColon, body_complete each admits,
    offered, Draft.scene_eq admits offered]

theorem skip_of_ne {kind : Kind} (follow : ∀ t ∈ rest.head?, t.kind ≠ kind) :
    skip kind rest = rest := by
  cases rest with
  | nil => rfl
  | cons t more => simp [skip, follow t rfl]

theorem closeScene_complete {closing : List Token}
    (ending : closing.map Token.kind ∈ [[], [.sceneEnd], [.sceneEnd, .semicolon]])
    (follow : ∀ t ∈ rest.head?, t.kind = .sceneStart ∨ t.kind = .moduleEnd) :
    closeScene (closing ++ rest) = rest := by
  have other : ∀ t ∈ rest.head?, t.kind ≠ .sceneEnd ∧ t.kind ≠ .semicolon := by
    intro t front
    rcases follow t front with isStart | isEnd
    · simp [isStart]
    · simp [isEnd]
  have unmarked := skip_of_ne fun t front => (other t front).2
  rcases closing with _ | ⟨t, _ | ⟨mark, _ | ⟨_, _⟩⟩⟩
  · cases rest with
    | nil => rfl
    | cons t more => simp [closeScene, (other t rfl).1]
  · have isEnd : t.kind = .sceneEnd := by simpa using ending
    simp [closeScene, isEnd, unmarked]
  · obtain ⟨isEnd, isMark⟩ : t.kind = .sceneEnd ∧ mark.kind = .semicolon := by simpa using ending
    simp [closeScene, isEnd, skip, isMark]
  · simp at ending

/-- Another name at the end of a module is worth a warning, but no error. -/
theorem closeModule_clean (name : Text) (start : Pos) (ts : List Token) :
    Clean (closeModule name start ts).1 := by
  unfold closeModule
  split
  · simp [Clean]
  · split
    · dsimp only
      split
      · simp [Clean]
      · simp [Clean]
    · simp [Clean]

theorem closeModule_complete {name : Text} {start : Pos} {closing : List Token}
    (ending : closing.map Token.kind ∈ [[], [.name], [.semicolon], [.name, .semicolon]])
    (follow : ∀ t ∈ rest.head?, t.kind = .moduleStart) :
    (closeModule name start (closing ++ rest)).2 = rest := by
  have unmarked : skip .semicolon rest = rest := skip_of_ne fun t front => by simp [follow t front]
  rcases closing with _ | ⟨t, _ | ⟨mark, _ | ⟨_, _⟩⟩⟩
  · cases rest with
    | nil => rfl
    | cons t more => simp [closeModule, follow t rfl, unmarked]
  · have kinds : t.kind = .name ∨ t.kind = .semicolon := by simpa using ending
    rcases kinds with isName | isMark
    · simp [closeModule, isName, unmarked]
    · simp [closeModule, isMark, skip]
  · obtain ⟨isName, isMark⟩ : t.kind = .name ∧ mark.kind = .semicolon := by simpa using ending
    simp [closeModule, isName, skip, isMark]
  · simp at ending

/-- What is said of the end of a module does not depend on what follows it. -/
theorem closeModule_append {name file : Text} {start : Pos} {closing : List Token}
    (ending : closing.map Token.kind ∈ [[], [.name], [.semicolon], [.name, .semicolon]])
    (follow : ∀ t ∈ rest.head?, t.kind = .moduleStart) :
    (closeModule name start (closing ++ rest)).1.map (Finding.diagnostic file) =
      (closeModule name start closing).1.map (Finding.diagnostic file) := by
  rcases closing with _ | ⟨t, more⟩
  · cases rest with
    | nil => rfl
    | cons t more => simp [closeModule, follow t rfl]
  · by_cases isName : t.kind = .name
    · by_cases same : t.lexeme = name
      · simp [closeModule, isName, same]
      · simp [closeModule, isName, same, Finding.diagnostic]
    · simp [closeModule, isName]

/-- After the parts of a scene comes a boundary, whether the end of the scene is marked or not. -/
theorem isBoundary_of_ending {closing : List Token}
    (ending : closing.map Token.kind ∈ [[], [.sceneEnd], [.sceneEnd, .semicolon]])
    (follow : ∀ t ∈ rest.head?, t.kind = .sceneStart ∨ t.kind = .moduleEnd) :
    ∀ t ∈ (closing ++ rest).head?, t.kind.isBoundary = true := by
  intro t front
  cases closing with
  | nil =>
    rcases follow t front with isStart | isEnd
    · simp [Kind.isBoundary, isStart]
    · simp [Kind.isBoundary, isEnd]
  | cons mark more =>
    obtain rfl : mark = t := Option.some.inj front
    have isEnd : mark.kind = .sceneEnd := by
      simp only [List.map_cons, List.mem_cons, reduceCtorEq, List.cons.injEq, List.not_mem_nil,
        or_false, false_or, ← and_or_left] at ending
      exact ending.1
    simp [Kind.isBoundary, isEnd]

/-- A scene of the grammar is read as the scene of its tree, and what follows it is left. -/
theorem scene_complete {last : Token} {tree : SceneTree} (is : IsScene us tree)
    (proper : tree.Proper)
    (follow : ∀ t ∈ rest.head?, t.kind = .sceneStart ∨ t.kind = .moduleEnd) :
    ∃ start ts, us = start :: ts ∧ start.kind = .sceneStart ∧
      scene last start (ts ++ rest) = (some tree.scene, [], rest) := by
  cases is with
  | @scene start name mark ts closing parts opening each ending =>
    simp only [List.map_cons, List.map_nil, List.cons.injEq, and_true] at opening
    obtain ⟨isStart, isName, isColon⟩ := opening
    refine ⟨start, name :: mark :: ts ++ closing, rfl, isStart, ?_⟩
    have inner : Inner (name :: mark :: ts) :=
      .cons isName rfl (.cons isColon rfl (inner_parts each))
    obtain ⟨inside, after⟩ := takeWhile_inner inner (isBoundary_of_ending ending follow)
    rw [List.append_assoc]
    simp only [scene, inside, after, closeScene_complete ending follow]
    rw [sceneWithin_complete (by simp [isName, isColon]) each proper]

theorem scene_head {tree : SceneTree} (is : IsScene us tree) :
    ∃ start ts, us = start :: ts ∧ start.kind = .sceneStart := by
  cases is with
  | scene opening each ending => exact ⟨_, _, rfl, (List.cons.inj opening).1⟩

/-- What follows a scene in a module is the next scene or the end of the module. -/
theorem scenes_head {trees : List SceneTree} (each : Each IsScene us trees)
    (follow : ∀ t ∈ rest.head?, t.kind = .sceneStart ∨ t.kind = .moduleEnd) :
    ∀ t ∈ (us ++ rest).head?, t.kind = .sceneStart ∨ t.kind = .moduleEnd := by
  intro t front
  cases each with
  | nil => exact follow t front
  | cons is each =>
    obtain ⟨start, ts, rfl, isStart⟩ := scene_head is
    obtain rfl : start = t := Option.some.inj front
    exact .inl isStart

theorem find?_of_nodup {α : Type} (name : α → Text) {seen more : List α} {a : α}
    (distinct : ((seen ++ a :: more).map name).Nodup) :
    (seen.find? fun earlier => decide (name earlier = name a)) = none := by
  rw [List.find?_eq_none]
  intro b member
  rw [List.map_append, List.nodup_append] at distinct
  simpa using distinct.2.2 (name b) (List.mem_map_of_mem member) (name a) (by simp)

theorem scenes_cons {last start : Token} {module : Text} {pos : Pos} {seen : List Scene} {s : Scene}
    {findings : List Finding} (isStart : start.kind = .sceneStart)
    (read : scene last start us = (some s, findings, rest))
    (fresh : (seen.find? fun earlier => earlier.name = s.name) = none) :
    scenes last module pos seen (start :: us) =
      ((scenes last module pos (seen ++ [s]) rest).1,
        findings ++ (scenes last module pos (seen ++ [s]) rest).2.1,
        (scenes last module pos (seen ++ [s]) rest).2.2) := by
  rw [scenes, if_pos isStart]
  split
  next ok =>
    rw [read] at ok
    cases ok
    simp [fresh]

/-- Scenes of the grammar are read as those of their trees, and what follows them is read on. -/
theorem scenes_append {last : Token} {module : Text} {pos : Pos} {seen : List Scene}
    {trees : List SceneTree} (each : Each IsScene us trees) (propers : ∀ t ∈ trees, t.Proper)
    (distinct : ((seen ++ trees.map SceneTree.scene).map Scene.name).Nodup)
    (follow : ∀ t ∈ rest.head?, t.kind = .sceneStart ∨ t.kind = .moduleEnd) :
    scenes last module pos seen (us ++ rest) =
      scenes last module pos (seen ++ trees.map SceneTree.scene) rest := by
  induction each generalizing seen with
  | nil => simp
  | @cons us us' tree trees is each ih =>
    obtain ⟨start, ts, rfl, isStart, read⟩ : ∃ start ts, us = start :: ts ∧
        start.kind = .sceneStart ∧ scene last start (ts ++ (us' ++ rest)) =
          (some tree.scene, [], us' ++ rest) :=
      scene_complete is (propers tree List.mem_cons_self) (scenes_head each follow)
    have fresh := find?_of_nodup Scene.name distinct
    rw [List.append_assoc, List.cons_append, scenes_cons isStart read fresh]
    have later := fun t member => propers t (List.mem_cons_of_mem tree member)
    rw [List.map_cons, List.append_cons] at distinct
    simpa using ih later distinct

/-- The scenes of a module of the grammar are read as those of its trees, up to the end. -/
theorem scenes_eq {last : Token} {module : Text} {pos : Pos} {seen : List Scene}
    {trees : List SceneTree} {final : Token} (each : Each IsScene us trees)
    (propers : ∀ t ∈ trees, t.Proper)
    (distinct : ((seen ++ trees.map SceneTree.scene).map Scene.name).Nodup)
    (isEnd : final.kind = .moduleEnd) :
    scenes last module pos seen (us ++ final :: rest) =
      (seen ++ trees.map SceneTree.scene, closeModule module pos rest) := by
  rw [scenes_append each propers distinct (by simp [isEnd]), scenes, if_neg (by simp [isEnd]),
    if_pos isEnd]

/-- A module of the grammar is read as the module of its tree, without errors. What is said of it
    does not depend on what follows it. -/
theorem module_complete (file : Text) {tree : ModuleTree} (is : IsModule us tree)
    (proper : tree.Proper) :
    ∃ start ts warnings, us = start :: ts ∧ start.kind = .moduleStart ∧ Clean warnings ∧
      ∀ last rest, (∀ t ∈ rest.head?, t.kind = .moduleStart) →
        ∃ findings, module last file start (ts ++ rest) = (some (tree.module file), findings, rest) ∧
          findings.map (Finding.diagnostic file) = warnings.map (Finding.diagnostic file) := by
  cases is with
  | @module start name mark final ts closing scenes opening each isEnd ending =>
    simp only [List.map_cons, List.map_nil, List.cons.injEq, and_true] at opening
    obtain ⟨isStart, isName, isColon⟩ := opening
    obtain ⟨propers, distinct⟩ := proper
    rw [← names_scene] at distinct
    refine ⟨start, name :: mark :: ts ++ final :: closing, _, rfl, isStart,
      closeModule_clean name.lexeme start.pos closing, fun last rest follow => ?_⟩
    refine ⟨_, ?_, closeModule_append ending follow⟩
    have read : Reading.scenes last name.lexeme start.pos [] (ts ++ final :: (closing ++ rest)) =
        (scenes.map SceneTree.scene, closeModule name.lexeme start.pos (closing ++ rest)) :=
      scenes_eq each propers distinct isEnd
    have left : (closeModule name.lexeme start.pos (closing ++ rest)).2 = rest :=
      closeModule_complete ending follow
    simp [module, expect_cons isName, colon, expect_cons isColon, read, ModuleTree.module, left]

theorem module_head {tree : ModuleTree} (is : IsModule us tree) :
    ∃ start ts, us = start :: ts ∧ start.kind = .moduleStart := by
  cases is with
  | module opening each isEnd ending => exact ⟨_, _, rfl, (List.cons.inj opening).1⟩

/-- What follows a module is the next one. -/
theorem modules_head {trees : List ModuleTree} (each : Each IsModule us trees)
    (follow : ∀ t ∈ rest.head?, t.kind = .moduleStart) :
    ∀ t ∈ (us ++ rest).head?, t.kind = .moduleStart := by
  intro t front
  cases each with
  | nil => exact follow t front
  | cons is each =>
    obtain ⟨start, ts, rfl, isStart⟩ := module_head is
    obtain rfl : start = t := Option.some.inj front
    exact isStart

theorem modules_cons {last start : Token} {file : Text} {seen : List Module} {m : Module}
    {findings : List Finding} (isStart : start.kind = .moduleStart)
    (read : module last file start us = (some m, findings, rest))
    (fresh : (seen.find? fun earlier => earlier.name = m.name) = none) :
    modules last file seen (start :: us) =
      ((modules last file (seen ++ [m]) rest).1,
        findings ++ (modules last file (seen ++ [m]) rest).2) := by
  rw [modules, if_pos isStart]
  split
  next ok =>
    rw [read] at ok
    cases ok
    simp [fresh]

/-- Modules of the grammar are read as those of their trees, without errors, and what follows them
    is read on. What is said of them depends neither on what follows nor on what came before. -/
theorem modules_append (file : Text) {trees : List ModuleTree} (each : Each IsModule us trees)
    (propers : ∀ t ∈ trees, t.Proper) :
    ∃ warnings, Clean warnings ∧ ∀ last seen rest,
      ((seen ++ trees.map (ModuleTree.module file)).map Module.name).Nodup →
      (∀ t ∈ rest.head?, t.kind = .moduleStart) →
        (modules last file seen (us ++ rest)).1 =
          (modules last file (seen ++ trees.map (ModuleTree.module file)) rest).1 ∧
        (modules last file seen (us ++ rest)).2.map (Finding.diagnostic file) =
          warnings.map (Finding.diagnostic file) ++
            (modules last file (seen ++ trees.map (ModuleTree.module file)) rest).2.map
              (Finding.diagnostic file) := by
  induction each with
  | nil => exact ⟨[], by simp [Clean], by simp⟩
  | @cons us us' tree trees is each ih =>
    obtain ⟨start, ts, warnings, rfl, isStart, clean, read⟩ :=
      module_complete file is (propers tree List.mem_cons_self)
    obtain ⟨more, quiet, ih⟩ := ih fun t member => propers t (List.mem_cons_of_mem tree member)
    refine ⟨warnings ++ more, clean_append.mpr ⟨clean, quiet⟩, fun last seen rest distinct follow => ?_⟩
    obtain ⟨findings, read, said⟩ := read last (us' ++ rest) (modules_head each follow)
    have fresh := find?_of_nodup Module.name distinct
    rw [List.append_assoc, List.cons_append, modules_cons isStart read fresh]
    rw [List.map_cons, List.append_cons] at distinct
    obtain ⟨found, later⟩ := ih last _ rest distinct follow
    constructor
    · simpa using found
    · simp [said, later]

theorem modules_complete {last : Token} {file : Text} {seen : List Module}
    {trees : List ModuleTree} (each : Each IsModule us trees) (propers : ∀ t ∈ trees, t.Proper)
    (distinct : ((seen ++ trees.map (ModuleTree.module file)).map Module.name).Nodup) :
    (modules last file seen us).1 = seen ++ trees.map (ModuleTree.module file) ∧
      Clean (modules last file seen us).2 := by
  obtain ⟨warnings, clean, read⟩ := modules_append file each propers
  obtain ⟨found, said⟩ := read last seen [] distinct (by simp)
  rw [List.append_nil] at found said
  rw [modules] at found said
  refine ⟨found, fun f member isError => ?_⟩
  rw [List.map_nil, List.append_nil] at said
  have same : Finding.diagnostic file f ∈ warnings.map (Finding.diagnostic file) :=
    said ▸ List.mem_map_of_mem member
  obtain ⟨g, warned, eq⟩ := List.mem_map.mp same
  exact clean g warned ((congrArg Diagnostic.severity eq).trans isError)

end Gamebook.Reading
