import Gamebook.Proofs.Script.Writable

/-! # Reading does not depend on where tokens stand

Positions can be forgotten before tokens are read or afterwards, in what was read and in what was
found: the result is the same. So tokens with the same kinds and texts are read alike, whether they
are well-formed or not.
-/

namespace Gamebook

namespace Token

def unplaced (t : Token) : Token :=
  { t with pos := .start }

@[simp] theorem kind_unplaced (t : Token) : t.unplaced.kind = t.kind :=
  rfl

@[simp] theorem lexeme_unplaced (t : Token) : t.unplaced.lexeme = t.lexeme :=
  rfl

@[simp] theorem pos_unplaced (t : Token) : t.unplaced.pos = .start :=
  rfl

end Token

/-- A problem without the positions that its message names. -/
def Problem.unplaced : Problem → Problem
  | .expected wanted context got => .expected wanted context got.unplaced
  | .expectedModule got => .expectedModule got.unplaced
  | .duplicateModule name _ => .duplicateModule name .start
  | .mismatchedModuleEnd closing name _ => .mismatchedModuleEnd closing name .start
  | .expectedScene module got => .expectedScene module got.unplaced
  | .duplicateScene name module _ => .duplicateScene name module .start
  | .expectedSceneItem scene got => .expectedSceneItem scene got.unplaced
  | .secondSelect scene _ => .secondSelect scene .start
  | .expectedTarget got => .expectedTarget got.unplaced
  | p => p

def Finding.unplaced (f : Finding) : Finding :=
  { f with pos := .start, problem := f.problem.unplaced }

def Diagnostic.unplaced (d : Diagnostic) : Diagnostic :=
  { d with pos := .start, problem := d.problem.unplaced }

/-- A module of its file, wherever in it. -/
def Module.anywhere (m : Module) : Module :=
  { m with pos := .start, scenes := m.scenes.map Scene.unplaced }

def Reading.Draft.unplaced (d : Reading.Draft) : Reading.Draft where
  effects := d.effects.map Effect.unplaced
  flavortext := d.flavortext
  select := d.select.map fun (_, bs) => (.start, bs.map Branch.unplaced)

namespace Reading

/-- Forgets positions in what a reader gives, where `see` forgets them in the part that was read. -/
def forget {α : Type} (see : α → α) :
    Except Finding (α × List Token) → Except Finding (α × List Token)
  | .ok (a, rest) => .ok (see a, rest.map Token.unplaced)
  | .error f => .error f.unplaced

theorem forget_bind {α β : Type} {see : α → α} {look : β → β}
    {x : Except Finding (α × List Token)} {next next' : α × List Token → Except Finding (β × List Token)}
    (step : ∀ a rest, next' (see a, rest.map Token.unplaced) = forget look (next (a, rest))) :
    (forget see x >>= next') = forget look (x >>= next) := by
  rcases x with f | ⟨a, rest⟩
  · rfl
  · exact step a rest

variable (stop : Token) (ts : List Token)

theorem wrong_unplaced (pos : Pos) (problem : Problem) :
    wrong stop.unplaced (ts.map Token.unplaced) .start problem.unplaced =
      (wrong stop ts pos problem).unplaced := by
  cases ts <;> rfl

theorem headD_unplaced :
    (ts.map Token.unplaced).headD stop.unplaced = (ts.headD stop).unplaced := by
  cases ts <;> rfl

theorem unexpected_unplaced (problem : Token → Problem)
    (blind : ∀ t, problem t.unplaced = (problem t).unplaced) :
    unexpected stop.unplaced (ts.map Token.unplaced) problem =
      (unexpected stop ts problem).unplaced := by
  simp only [unexpected, headD_unplaced, blind]
  exact wrong_unplaced stop ts _ _

theorem expect_unplaced (wanted : Kind) (context : String) :
    expect stop.unplaced wanted context (ts.map Token.unplaced) =
      forget Token.unplaced (expect stop wanted context ts) := by
  cases ts with
  | nil => rfl
  | cons t rest =>
    by_cases kind : t.kind = wanted
    · simp [expect, kind, forget]
    · have moved := unexpected_unplaced stop (t :: rest) (.expected wanted context) fun _ => rfl
      simpa [expect, kind, forget] using moved

/-- A reader that begins with a token of a kind goes on alike. -/
theorem expect_bind_unplaced {β : Type} {look : β → β} {stop : Token} {ts : List Token}
    {wanted : Kind} {context : String} {next next' : Token × List Token → Except Finding (β × List Token)}
    (step : ∀ t rest, next' (t.unplaced, rest.map Token.unplaced) = forget look (next (t, rest))) :
    (expect stop.unplaced wanted context (ts.map Token.unplaced) >>= next') =
      forget look (expect stop wanted context ts >>= next) := by
  rw [expect_unplaced]
  exact forget_bind step

theorem target_unplaced :
    target stop.unplaced (ts.map Token.unplaced) = forget id (target stop ts) := by
  cases ts with
  | nil => rfl
  | cons t rest =>
    simp only [target, List.map_cons, Token.kind_unplaced]
    split
    · cases rest with
      | nil => rfl
      | cons s after =>
        simp only [List.map_cons, Token.kind_unplaced]
        split
        · exact expect_bind_unplaced fun _ _ => rfl
        · rfl
    · split
      · refine expect_bind_unplaced fun _ rest => expect_bind_unplaced fun path rest => ?_
        by_cases blank : path.lexeme.trim.isEmpty
        · dsimp only
          rw [if_pos blank, if_pos (show path.unplaced.lexeme.trim.isEmpty from blank)]
          exact congrArg Except.error (wrong_unplaced stop rest path.pos .blankFilePath)
        · dsimp only
          rw [if_neg blank, if_neg (show ¬path.unplaced.lexeme.trim.isEmpty from blank)]
          refine expect_bind_unplaced fun _ _ => ?_
          refine expect_bind_unplaced fun _ _ => ?_
          refine expect_bind_unplaced fun _ _ => ?_
          refine expect_bind_unplaced fun _ _ => ?_
          exact expect_bind_unplaced fun _ _ => rfl
      · exact congrArg Except.error (unexpected_unplaced stop (t :: rest) .expectedTarget fun _ => rfl)

theorem condition_unplaced :
    condition stop.unplaced (ts.map Token.unplaced) = forget id (condition stop ts) := by
  refine expect_bind_unplaced fun _ rest => ?_
  cases rest with
  | nil => exact expect_bind_unplaced fun _ _ => rfl
  | cons t after =>
    simp only [List.map_cons, Token.kind_unplaced]
    split
    · exact expect_bind_unplaced fun _ _ => rfl
    · rw [← List.map_cons]
      exact expect_bind_unplaced fun _ _ => rfl

theorem guard_eq : guard stop ts = (do
    let (c, rest) ← condition stop ts
    if rest.head?.map Token.kind = some .comma then
      let (cs, rest) ← guard stop rest.tail
      return (c :: cs, rest)
    else
      let (_, rest) ← expect stop .question "to end option guard" rest
      return ([c], rest)) := by
  rw [guard]
  split
  · next failed =>
    rw [failed]
    rfl
  · next c rest ok =>
    cases rest with
    | nil =>
      dsimp only
      rw [ok]
      rfl
    | cons t after =>
      dsimp only
      rw [ok]
      by_cases comma : t.kind = .comma
      · simp [comma, bind, Except.bind]
      · simp [comma, bind, Except.bind]

theorem head_kind_unplaced :
    (ts.map Token.unplaced).head?.map Token.kind = ts.head?.map Token.kind := by
  cases ts <;> rfl

theorem guard_unplaced :
    guard stop.unplaced (ts.map Token.unplaced) = forget id (guard stop ts) := by
  induction size : ts.length using Nat.strongRecOn generalizing ts with
  | ind n ih =>
    rw [guard_eq, guard_eq stop ts, condition_unplaced]
    cases read : condition stop ts with
    | error f => rfl
    | ok found =>
      obtain ⟨c, rest⟩ := found
      have shorter := condition_length_lt read
      change (if (rest.map Token.unplaced).head?.map Token.kind = some .comma then _ else _) =
        forget id (if rest.head?.map Token.kind = some .comma then _ else _)
      rw [head_kind_unplaced]
      split
      · rw [← List.map_tail, ih rest.tail.length (by simp; omega) rest.tail rfl]
        exact forget_bind fun _ _ => rfl
      · exact expect_bind_unplaced fun _ _ => rfl

theorem branch_unplaced :
    branch stop.unplaced (ts.map Token.unplaced) = forget Branch.unplaced (branch stop ts) := by
  have guarded : optionalGuard stop.unplaced (ts.map Token.unplaced) =
      forget id (optionalGuard stop ts) := by
    simp only [optionalGuard, headD_unplaced, Token.kind_unplaced]
    split
    · exact guard_unplaced stop ts
    · rfl
  rw [branch, guarded, headD_unplaced]
  refine forget_bind fun _ _ => ?_
  refine expect_bind_unplaced fun _ _ => ?_
  refine expect_bind_unplaced fun _ rest => ?_
  dsimp only
  rw [target_unplaced]
  exact forget_bind fun _ _ => rfl

theorem branches_eq : branches stop ts =
    if (ts.headD stop).kind = .rightBrace then .ok ([], ts)
    else do
      let (b, rest) ← branch stop ts
      if rest.head?.map Token.kind = some .comma then
        let (bs, rest) ← branches stop rest.tail
        return (b :: bs, rest)
      else return ([b], rest) := by
  rw [branches]
  split
  · rfl
  · split
    · next failed =>
      rw [failed]
      rfl
    · next b rest ok =>
      cases rest with
      | nil =>
        dsimp only
        rw [ok]
        rfl
      | cons t after =>
        dsimp only
        rw [ok]
        by_cases comma : t.kind = .comma
        · simp [comma, bind, Except.bind]
        · simp [comma, bind, Except.bind, pure, Except.pure]

theorem branches_unplaced :
    branches stop.unplaced (ts.map Token.unplaced) =
      forget (List.map Branch.unplaced) (branches stop ts) := by
  induction size : ts.length using Nat.strongRecOn generalizing ts with
  | ind n ih =>
    rw [branches_eq, branches_eq stop ts, headD_unplaced, Token.kind_unplaced]
    split
    · rfl
    · rw [branch_unplaced]
      cases read : branch stop ts with
      | error f => rfl
      | ok found =>
        obtain ⟨b, rest⟩ := found
        have shorter := branch_length_lt read
        change (if (rest.map Token.unplaced).head?.map Token.kind = some .comma then _ else _) =
          forget _ (if rest.head?.map Token.kind = some .comma then _ else _)
        rw [head_kind_unplaced]
        split
        · rw [← List.map_tail, ih rest.tail.length (by simp; omega) rest.tail rfl]
          exact forget_bind fun _ _ => rfl
        · rfl

theorem select_unplaced :
    select stop.unplaced (ts.map Token.unplaced) =
      forget (List.map Branch.unplaced) (select stop ts) := by
  refine expect_bind_unplaced fun _ rest => ?_
  dsimp only
  rw [branches_unplaced]
  refine forget_bind fun _ _ => ?_
  refine expect_bind_unplaced fun _ _ => ?_
  exact expect_bind_unplaced fun _ _ => rfl

theorem lines_unplaced :
    lines (ts.map Token.unplaced) = ((lines ts).1, (lines ts).2.map Token.unplaced) := by
  fun_induction lines ts with
  | case1 => rfl
  | case2 t string => simp [lines, string]
  | case3 t other => simp [lines, other]
  | case4 t c rest string more after eq ih ih' =>
    by_cases comma : c.kind = .comma
    · rw [if_pos comma] at eq
      rw [eq] at ih
      simp [lines, string, comma, ih]
    · rw [if_neg comma] at eq
      rw [eq] at ih'
      simp only [List.map_cons] at ih'
      simp [lines, string, comma, ih']
  | case5 t c rest other => simp [lines, other]

theorem flavortext_unplaced :
    flavortext stop.unplaced (ts.map Token.unplaced) = forget id (flavortext stop ts) := by
  refine expect_bind_unplaced fun _ rest => ?_
  dsimp only
  rw [lines_unplaced]
  refine expect_bind_unplaced fun _ _ => ?_
  exact expect_bind_unplaced fun _ _ => rfl

theorem effect_unplaced (start : Token) :
    effect stop.unplaced start.unplaced (ts.map Token.unplaced) =
      forget Effect.unplaced (effect stop start ts) := by
  unfold effect
  by_cases get : start.kind = .get
  · rw [if_pos get, if_pos (show start.unplaced.kind = .get from get)]
    refine expect_bind_unplaced fun _ _ => ?_
    exact expect_bind_unplaced fun _ _ => rfl
  · rw [if_neg get, if_neg (show ¬start.unplaced.kind = .get from get)]
    refine expect_bind_unplaced fun _ _ => ?_
    exact expect_bind_unplaced fun _ _ => rfl

theorem body_cons (scene : Text) (draft : Draft) (t : Token) (rest : List Token) :
    body stop scene draft (t :: rest) =
      if t.kind = .get ∨ t.kind = .lose then
        match effect stop t rest with
        | .error finding => (none, [finding])
        | .ok (e, rest) => body stop scene { draft with effects := draft.effects ++ [e] } rest
      else if t.kind = .flavortext then
        match flavortext stop rest with
        | .error finding => (none, [finding])
        | .ok (told, rest) =>
          if draft.flavortext.isSome then
            let (result, findings) := body stop scene draft rest
            (result, wrong stop rest t.pos (.secondFlavortext scene) :: findings)
          else body stop scene { draft with flavortext := some told } rest
      else if t.kind = .select then
        match select stop rest with
        | .error finding => (none, [finding])
        | .ok (bs, rest) =>
          match draft.select with
          | some (first, _) =>
            let (result, findings) := body stop scene draft rest
            (result, wrong stop rest t.pos (.secondSelect scene first) :: findings)
          | none =>
            let (result, findings) := body stop scene { draft with select := some (t.pos, bs) } rest
            if bs.isEmpty then (result, wrong stop rest t.pos (.emptySelect scene) :: findings)
            else (result, findings)
      else (none, [unexpected stop (t :: rest) (.expectedSceneItem scene)]) := by
  rw [body]
  split
  · split
    · next failed => rw [failed]
    · next ok => rw [ok]
  · split
    · split
      · next failed => rw [failed]
      · next ok => rw [ok]
    · split
      · split
        · next failed => rw [failed]
        · next ok =>
          rewrite [ok]
          rfl
      · rfl

theorem body_unplaced (scene : Text) (draft : Draft) :
    body stop.unplaced scene draft.unplaced (ts.map Token.unplaced) =
      ((body stop scene draft ts).1.map Draft.unplaced,
        (body stop scene draft ts).2.map Finding.unplaced) := by
  induction size : ts.length using Nat.strongRecOn generalizing ts draft with
  | ind n ih =>
    cases ts with
    | nil =>
      rw [List.map_nil, body, body]
      rfl
    | cons t rest =>
      -- What is left after a part is shorter, whatever the draft has become by then.
      have later (draft : Draft) {left : List Token} (shorter : left.length < rest.length) :=
        ih left.length (by rw [← size, List.length_cons]; omega) left draft rfl
      rw [List.map_cons, body_cons, body_cons, Token.kind_unplaced]
      split
      · rw [effect_unplaced]
        cases read : effect stop t rest with
        | error f => rfl
        | ok found =>
          obtain ⟨e, left⟩ := found
          have moved := later { draft with effects := draft.effects ++ [e] } (effect_length_lt read)
          rw [← moved]
          simp [forget, Draft.unplaced]
      · split
        · rw [flavortext_unplaced]
          cases read : flavortext stop rest with
          | error f => rfl
          | ok found =>
            obtain ⟨told, left⟩ := found
            have shorter := flavortext_length_lt read
            change (if draft.flavortext.isSome then _ else _) = _
            by_cases second : draft.flavortext.isSome
            · have moved := later draft shorter
              have again := wrong_unplaced stop left t.pos (.secondFlavortext scene)
              simp only [second, if_true]
              rw [moved, List.map_cons, ← again]
              rfl
            · have moved := later { draft with flavortext := some told } shorter
              simp only [second, Bool.false_eq_true, if_false]
              rw [← moved]
              rfl
        · split
          · rw [select_unplaced]
            cases read : select stop rest with
            | error f => rfl
            | ok found =>
              obtain ⟨bs, left⟩ := found
              have shorter := select_length_lt read
              cases offered : draft.select with
              | some first =>
                have moved := later draft shorter
                have again := wrong_unplaced stop left t.pos (.secondSelect scene first.1)
                simp only [forget, Draft.unplaced, offered, Option.map_some, List.map_cons, ← again]
                  at moved ⊢
                rw [moved]
                rfl
              | none =>
                have moved := later { draft with select := some (t.pos, bs) } shorter
                have empty := wrong_unplaced stop left t.pos (.emptySelect scene)
                simp only [forget, Draft.unplaced, offered, Option.map_none, Option.map_some,
                  Token.pos_unplaced, List.isEmpty_map] at moved ⊢
                rw [moved]
                split
                · rw [List.map_cons, ← empty]
                  rfl
                · rfl
          · have moved := unexpected_unplaced stop (t :: rest) (.expectedSceneItem scene) fun _ => rfl
            simp only [List.map_cons] at moved
            simp [moved]

theorem colon_unplaced (context : String) :
    colon stop.unplaced context (ts.map Token.unplaced) =
      ((colon stop context ts).1.map Finding.unplaced,
        (colon stop context ts).2.map Token.unplaced) := by
  unfold colon
  rw [expect_unplaced]
  cases expect stop .colon context ts with
  | error f => rfl
  | ok found => rfl

theorem sceneWithin_unplaced (start : Token) (inside rest : List Token) :
    sceneWithin start.unplaced stop.unplaced (inside.map Token.unplaced)
        (rest.map Token.unplaced) =
      ((sceneWithin start stop inside rest).1.map Scene.unplaced,
        (sceneWithin start stop inside rest).2.map Finding.unplaced) := by
  unfold sceneWithin
  rw [expect_unplaced]
  cases expect stop .name "after @scene" inside with
  | error f => rfl
  | ok found =>
    obtain ⟨name, left⟩ := found
    simp only [forget, colon_unplaced]
    have moved := body_unplaced stop (colon stop "after scene name" left).2 name.lexeme {}
    change body stop.unplaced name.unplaced.lexeme {} _ = _ at moved
    rw [moved]
    cases (body stop name.lexeme {} (colon stop "after scene name" left).2).1 with
    | none => simp
    | some draft =>
      cases offered : draft.select with
      | some select => simp [Draft.unplaced, Scene.unplaced, offered]
      | none => simp [Draft.unplaced, Scene.unplaced, offered, Finding.unplaced, Problem.unplaced]

theorem seek_unplaced (accepts : Kind → Bool) :
    seek accepts (ts.map Token.unplaced) = (seek accepts ts).map Token.unplaced := by
  rw [seek, List.dropWhile_map]
  rfl

theorem skip_unplaced (kind : Kind) :
    skip kind (ts.map Token.unplaced) = (skip kind ts).map Token.unplaced := by
  cases ts with
  | nil => rfl
  | cons t rest => by_cases same : t.kind = kind <;> simp [skip, same]

theorem closeScene_unplaced :
    closeScene (ts.map Token.unplaced) = (closeScene ts).map Token.unplaced := by
  cases ts with
  | nil => rfl
  | cons t rest => by_cases ends : t.kind = .sceneEnd <;> simp [closeScene, ends, skip_unplaced]

theorem scene_unplaced (last start : Token) :
    scene last.unplaced start.unplaced (ts.map Token.unplaced) =
      ((scene last start ts).1.map Scene.unplaced, (scene last start ts).2.1.map Finding.unplaced,
        (scene last start ts).2.2.map Token.unplaced) := by
  have inside : (ts.map Token.unplaced).takeWhile (!·.kind.isBoundary) =
      (ts.takeWhile (!·.kind.isBoundary)).map Token.unplaced := by
    rw [List.takeWhile_map]
    rfl
  simp only [scene, seek_unplaced, closeScene_unplaced, headD_unplaced, inside,
    sceneWithin_unplaced]

theorem closeModule_unplaced (name : Text) (start : Pos) :
    closeModule name .start (ts.map Token.unplaced) =
      ((closeModule name start ts).1.map Finding.unplaced,
        (closeModule name start ts).2.map Token.unplaced) := by
  cases ts with
  | nil => rfl
  | cons t rest =>
    have left := skip_unplaced (t :: rest) .semicolon
    rw [List.map_cons] at left
    by_cases isName : t.kind = .name
    · by_cases same : t.lexeme = name
      · simp [closeModule, isName, same, skip_unplaced]
      · simp [closeModule, isName, same, skip_unplaced, Finding.unplaced, Problem.unplaced]
    · simp [closeModule, isName, left]

variable {stop ts}

section Scenes

variable {last start : Token} {module : Text} {pos : Pos} {seen : List Scene}
  {findings : List Finding} {after : List Token}

/-! What becomes of a scene that was read, with findings or without. -/

theorem scenes_of_dropped (read : scene last start ts = (none, findings, after))
    (isStart : start.kind = .sceneStart) :
    scenes last module pos seen (start :: ts) =
      ((scenes last module pos seen after).1, findings ++ (scenes last module pos seen after).2.1,
        (scenes last module pos seen after).2.2) := by
  rw [scenes, if_pos isStart]
  split
  next ok =>
    rw [read] at ok
    cases ok
    rfl

theorem scenes_of_second {s first : Scene} (read : scene last start ts = (some s, findings, after))
    (isStart : start.kind = .sceneStart)
    (earlier : (seen.find? fun earlier => earlier.name = s.name) = some first) :
    scenes last module pos seen (start :: ts) =
      ((scenes last module pos seen after).1,
        findings ++ ⟨.error, s.pos, .duplicateScene s.name module first.pos, after.isEmpty⟩ ::
          (scenes last module pos seen after).2.1,
        (scenes last module pos seen after).2.2) := by
  rw [scenes, if_pos isStart]
  split
  next ok =>
    rw [read] at ok
    cases ok
    simp [earlier]

theorem find?_unplaced (seen : List Scene) (s : Scene) :
    ((seen.map Scene.unplaced).find? fun earlier => earlier.name = s.unplaced.name) =
      (seen.find? fun earlier => earlier.name = s.name).map Scene.unplaced := by
  rw [List.find?_map]
  rfl

theorem scenes_unplaced (last : Token) (module : Text) (start : Pos) (seen : List Scene)
    (ts : List Token) :
    scenes last.unplaced module .start (seen.map Scene.unplaced) (ts.map Token.unplaced) =
      ((scenes last module start seen ts).1.map Scene.unplaced,
        (scenes last module start seen ts).2.1.map Finding.unplaced,
        (scenes last module start seen ts).2.2.map Token.unplaced) := by
  have moved {t : Token} {rest : List Token} {scene? : Option Scene} {findings : List Finding}
      {after : List Token} (read : scene last t rest = (scene?, findings, after)) :
      scene last.unplaced t.unplaced (rest.map Token.unplaced) =
        (scene?.map Scene.unplaced, findings.map Finding.unplaced, after.map Token.unplaced) := by
    rw [scene_unplaced, read]
  fun_induction scenes last module start seen ts with
  | case1 seen =>
    rw [List.map_nil, scenes]
    rfl
  | case2 seen t rest isStart findings after read found more left eq _ ih =>
    rw [eq] at ih
    rw [List.map_cons, scenes_of_dropped (moved read) isStart, ih]
    simp
  | case3 seen t rest isStart findings after s read first earlier found more left eq _ ih =>
    rw [eq] at ih
    have earlier' := find?_unplaced seen s
    rw [earlier] at earlier'
    rw [List.map_cons, scenes_of_second (moved read) isStart earlier', ih]
    simp [Finding.unplaced, Problem.unplaced, Scene.unplaced]
  | case4 seen t rest isStart findings after s read fresh found more left eq _ ih =>
    rw [eq, List.map_append] at ih
    have fresh' := find?_unplaced seen s
    rw [fresh] at fresh'
    rw [List.map_cons, scenes_cons (by exact isStart) (moved read) fresh']
    simp only [List.map_cons, List.map_nil] at ih
    rw [ih]
    simp
  | case5 seen t rest other isEnd warnings left eq =>
    have closed := closeModule_unplaced rest module start
    rw [eq] at closed
    rw [List.map_cons, scenes]
    simp [isEnd, closed]
  | case6 seen t rest other other' isStart =>
    rw [List.map_cons, scenes]
    simp [isStart, Finding.unplaced, Problem.unplaced]
  | case7 seen t rest other other' other'' found more left eq ih =>
    rw [eq, ← seek_unplaced] at ih
    rw [List.map_cons, scenes]
    simp [other, other', other'', ih, Finding.unplaced, Problem.unplaced]

end Scenes

section Modules

variable {last start : Token} {file : Text} {seen : List Module} {findings : List Finding}
  {after : List Token}

theorem modules_of_dropped (read : module last file start ts = (none, findings, after))
    (isStart : start.kind = .moduleStart) :
    modules last file seen (start :: ts) =
      ((modules last file seen after).1, findings ++ (modules last file seen after).2) := by
  rw [modules, if_pos isStart]
  split
  next ok =>
    rw [read] at ok
    cases ok
    rfl

theorem modules_of_second {m first : Module}
    (read : module last file start ts = (some m, findings, after))
    (isStart : start.kind = .moduleStart)
    (earlier : (seen.find? fun earlier => earlier.name = m.name) = some first) :
    modules last file seen (start :: ts) =
      ((modules last file seen after).1,
        findings ++ ⟨.error, m.pos, .duplicateModule m.name first.pos, after.isEmpty⟩ ::
          (modules last file seen after).2) := by
  rw [modules, if_pos isStart]
  split
  next ok =>
    rw [read] at ok
    cases ok
    simp [earlier]

theorem closeNameless_unplaced (ts : List Token) :
    closeNameless (ts.map Token.unplaced) = (closeNameless ts).map Token.unplaced := by
  cases ts with
  | nil => rfl
  | cons t rest =>
    by_cases ends : t.kind = .moduleEnd <;> simp [closeNameless, ends, skip_unplaced]

theorem module_unplaced (last : Token) (file : Text) (start : Token) (ts : List Token) :
    module last.unplaced file start.unplaced (ts.map Token.unplaced) =
      ((module last file start ts).1.map Module.anywhere,
        (module last file start ts).2.1.map Finding.unplaced,
        (module last file start ts).2.2.map Token.unplaced) := by
  unfold module
  rw [expect_unplaced]
  cases expect last .name "after @module" ts with
  | error f => simp [forget, seek_unplaced, closeNameless_unplaced]
  | ok found =>
    obtain ⟨name, left⟩ := found
    have moved := scenes_unplaced last name.lexeme start.pos []
      (colon last "after module name" left).2
    rw [List.map_nil] at moved
    simp [forget, colon_unplaced, moved, Module.anywhere]

theorem find?_anywhere (seen : List Module) (m : Module) :
    ((seen.map Module.anywhere).find? fun earlier => earlier.name = m.anywhere.name) =
      (seen.find? fun earlier => earlier.name = m.name).map Module.anywhere := by
  rw [List.find?_map]
  rfl

/-- Modules are read alike wherever their tokens stand. -/
theorem modules_unplaced (last : Token) (file : Text) (seen : List Module) (ts : List Token) :
    modules last.unplaced file (seen.map Module.anywhere) (ts.map Token.unplaced) =
      ((modules last file seen ts).1.map Module.anywhere,
        (modules last file seen ts).2.map Finding.unplaced) := by
  have moved {t : Token} {rest : List Token} {module? : Option Module} {findings : List Finding}
      {after : List Token} (read : module last file t rest = (module?, findings, after)) :
      module last.unplaced file t.unplaced (rest.map Token.unplaced) =
        (module?.map Module.anywhere, findings.map Finding.unplaced, after.map Token.unplaced) := by
    rw [module_unplaced, read]
  fun_induction modules last file seen ts with
  | case1 seen =>
    rw [List.map_nil, modules]
    rfl
  | case2 seen t rest isStart findings after read found more eq _ ih =>
    rw [eq] at ih
    rw [List.map_cons, modules_of_dropped (moved read) isStart, ih]
    simp
  | case3 seen t rest isStart findings after m read first earlier found more eq _ ih =>
    rw [eq] at ih
    have earlier' := find?_anywhere seen m
    rw [earlier] at earlier'
    rw [List.map_cons, modules_of_second (moved read) isStart earlier', ih]
    simp [Finding.unplaced, Problem.unplaced, Module.anywhere]
  | case4 seen t rest isStart findings after m read fresh found more eq _ ih =>
    rw [eq, List.map_append] at ih
    have fresh' := find?_anywhere seen m
    rw [fresh] at fresh'
    rw [List.map_cons, modules_cons (by exact isStart) (moved read) fresh']
    simp only [List.map_cons, List.map_nil] at ih
    rw [ih]
    simp
  | case5 seen t rest other found more eq ih =>
    rw [eq, ← seek_unplaced] at ih
    rw [List.map_cons, modules]
    simp [other, ih, Finding.unplaced, Problem.unplaced]

end Modules

end Reading

end Gamebook
