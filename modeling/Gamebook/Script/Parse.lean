import Gamebook.Diagnostic
import Gamebook.Script
import Gamebook.Source

/-! # Reading scripts

A script is read from the tokens of a source. Reading does not stop at the first error: a malformed
scene is dropped, and reading goes on at the next boundary of scenes or modules, so every problem of
a file is found at once. What is wrong inside a scene never reaches beyond its boundary, because a
scene is read from the tokens before that boundary alone.

A failure to read the tokens themselves comes as one diagnostic at the place where it happened. Of
what is found after that place only warnings are kept, since the missing tokens would explain the
errors.
-/

namespace Gamebook

/-- Something found while reading tokens. -/
structure Finding where
  severity : Severity
  pos : Pos
  problem : Problem
  /-- Whether all tokens had been read by then. -/
  atEnd : Bool
  deriving DecidableEq, Repr, Inhabited

namespace Kind

/-- Whether a kind bounds scenes. -/
def isBoundary (k : Kind) : Bool :=
  k = .moduleStart || k = .moduleEnd || k = .sceneStart || k = .sceneEnd

/-- Whether a module goes on or ends with a kind. -/
def continuesModule (k : Kind) : Bool :=
  k = .sceneStart || k = .moduleEnd || k = .moduleStart

/-- Whether a kind bounds modules. -/
def boundsModule (k : Kind) : Bool :=
  k = .moduleEnd || k = .moduleStart

end Kind

namespace Reading

/-- The tokens without one of the given kind at the front, if one is there. -/
def skip (kind : Kind) : List Token → List Token
  | [] => []
  | t :: rest => if t.kind = kind then rest else t :: rest

/-- The tokens from the first one on whose kind is accepted. -/
def seek (accepts : Kind → Bool) (ts : List Token) : List Token :=
  ts.dropWhile fun t => !accepts t.kind

/-! Inside a scene: `stop` is the token after the scene, a boundary or the end of the source. -/

/-- An error found when the given tokens of a scene are left. -/
def wrong (stop : Token) (ts : List Token) (pos : Pos) (problem : Problem) : Finding :=
  ⟨.error, pos, problem, ts.isEmpty && stop.kind = .endOfInput⟩

/-- An error about the token at the front. -/
def unexpected (stop : Token) (ts : List Token) (problem : Token → Problem) : Finding :=
  let got := ts.headD stop
  wrong stop ts got.pos (problem got)

/-- Reads a token of the given kind. -/
def expect (stop : Token) (wanted : Kind) (context : String) (ts : List Token) :
    Except Finding (Token × List Token) :=
  match ts with
  | t :: rest =>
    if t.kind = wanted then .ok (t, rest)
    else .error (unexpected stop ts (.expected wanted context))
  | [] => .error (unexpected stop ts (.expected wanted context))

/-- Reads the target of a branch. -/
def target (stop : Token) (ts : List Token) : Except Finding (Target × List Token) :=
  match ts with
  | [] => .error (unexpected stop ts .expectedTarget)
  | t :: rest =>
    if t.kind = .name then
      match rest with
      | s :: after =>
        if s.kind = .scope then do
          let (scene, rest) ← expect stop .name "as scene name after ::" after
          return (.sameFile (some t.lexeme) scene.lexeme, rest)
        else .ok (.sameFile none t.lexeme, rest)
      | [] => .ok (.sameFile none t.lexeme, rest)
    else if t.kind = .fileRef then do
      let (_, rest) ← expect stop .leftParen "after @file" rest
      let (path, rest) ← expect stop .string "as @file path" rest
      if path.lexeme.trim.isEmpty then
        throw (wrong stop rest path.pos .blankFilePath)
      let (_, rest) ← expect stop .rightParen "after @file path" rest
      let (_, rest) ← expect stop .scope "after @file(...)" rest
      let (module, rest) ← expect stop .name "as module name in @file reference" rest
      let (_, rest) ← expect stop .scope "after module name" rest
      let (scene, rest) ← expect stop .name "as scene name in @file reference" rest
      return (.otherFile path.lexeme module.lexeme scene.lexeme, rest)
    else .error (unexpected stop ts .expectedTarget)

/-- Reads one condition of a guard. -/
def condition (stop : Token) (ts : List Token) : Except Finding (Condition × List Token) := do
  let (_, rest) ← expect stop .has "in option guard" ts
  match rest with
  | t :: after =>
    if t.kind = .no then
      let (item, rest) ← expect stop .string "after has" after
      return (.lacks item.lexeme, rest)
    else
      let (item, rest) ← expect stop .string "after has" rest
      return (.has item.lexeme, rest)
  | [] =>
    let (item, rest) ← expect stop .string "after has" rest
    return (.has item.lexeme, rest)

theorem skip_length_le (kind : Kind) (ts : List Token) : (skip kind ts).length ≤ ts.length := by
  cases ts with
  | nil => exact Nat.le_refl _
  | cons t rest =>
    simp only [skip]
    split
    · exact Nat.le_succ _
    · exact Nat.le_refl _

theorem seek_length_le (accepts : Kind → Bool) (ts : List Token) :
    (seek accepts ts).length ≤ ts.length :=
  (List.dropWhile_suffix _).length_le

/-- A token that is read leaves fewer tokens. -/
theorem expect_length_lt {stop : Token} {wanted : Kind} {context : String} {ts rest : List Token}
    {t : Token} (ok : expect stop wanted context ts = .ok (t, rest)) : rest.length < ts.length := by
  unfold expect at ok
  split at ok
  · split at ok
    · cases ok
      exact Nat.lt_succ_self _
    · cases ok
  · cases ok

theorem bind_eq_ok {α β : Type} {x : Except Finding α} {f : α → Except Finding β} {b : β}
    (ok : (x >>= f) = .ok b) : ∃ a, x = .ok a ∧ f a = .ok b := by
  cases x with
  | error e => cases ok
  | ok a => exact ⟨a, rfl, ok⟩

theorem condition_length_lt {stop : Token} {ts rest : List Token} {c : Condition}
    (ok : condition stop ts = .ok (c, rest)) : rest.length < ts.length := by
  obtain ⟨⟨_, afterHas⟩, has, ok⟩ := bind_eq_ok ok
  have := expect_length_lt has
  simp only at ok
  split at ok
  · split at ok
    · obtain ⟨⟨_, _⟩, item, ok⟩ := bind_eq_ok ok
      have := expect_length_lt item
      cases ok
      simp only [List.length_cons] at *
      omega
    · obtain ⟨⟨_, _⟩, item, ok⟩ := bind_eq_ok ok
      have := expect_length_lt item
      cases ok
      simp only at *
      omega
  · obtain ⟨⟨_, _⟩, item, ok⟩ := bind_eq_ok ok
    have := expect_length_lt item
    cases ok
    simp only at *
    omega

/-- Reads the conditions of a guard and the question mark after them. -/
def guard (stop : Token) (ts : List Token) : Except Finding (List Condition × List Token) :=
  match _read : condition stop ts with
  | .error finding => .error finding
  | .ok (c, rest) =>
    match rest with
    | t :: after =>
      if t.kind = .comma then do
        let (cs, rest) ← guard stop after
        return (c :: cs, rest)
      else do
        let (_, rest) ← expect stop .question "to end option guard" rest
        return ([c], rest)
    | [] => do
      let (_, rest) ← expect stop .question "to end option guard" rest
      return ([c], rest)
termination_by ts.length
decreasing_by
  have := condition_length_lt _read
  simp only [List.length_cons] at this
  omega

/-- Reads a guard if there is one. -/
def optionalGuard (stop : Token) (ts : List Token) :
    Except Finding (List Condition × List Token) :=
  if (ts.headD stop).kind = .has then guard stop ts else .ok ([], ts)

/-- Reads a branch. -/
def branch (stop : Token) (ts : List Token) : Except Finding (Branch × List Token) := do
  let (guard, rest) ← optionalGuard stop ts
  let (label, rest) ← expect stop .string "as option label" rest
  let (_, rest) ← expect stop .arrow "after option label" rest
  let (target, rest) ← target stop rest
  return (⟨label.lexeme, guard, target, (ts.headD stop).pos⟩, rest)

theorem guard_length_le {stop : Token} {ts rest : List Token} {cs : List Condition}
    (ok : guard stop ts = .ok (cs, rest)) : rest.length ≤ ts.length := by
  fun_induction guard stop ts generalizing cs rest with
  | case1 => cases ok
  | case2 ts c t after read comma _ ih =>
    obtain ⟨⟨_, _⟩, more, ok⟩ := bind_eq_ok ok
    have := ih more
    have := condition_length_lt read
    cases ok
    simp only [List.length_cons] at *
    omega
  | case3 ts c t after read comma =>
    obtain ⟨⟨_, _⟩, mark, ok⟩ := bind_eq_ok ok
    have := expect_length_lt mark
    have := condition_length_lt read
    cases ok
    omega
  | case4 ts c read =>
    obtain ⟨⟨_, _⟩, mark, ok⟩ := bind_eq_ok ok
    have := expect_length_lt mark
    have := condition_length_lt read
    cases ok
    omega

theorem target_length_le {stop : Token} {ts rest : List Token} {t : Target}
    (ok : target stop ts = .ok (t, rest)) : rest.length ≤ ts.length := by
  unfold target at ok
  split at ok
  · cases ok
  · split at ok
    · split at ok
      · split at ok
        · obtain ⟨⟨_, _⟩, scene, ok⟩ := bind_eq_ok ok
          have := expect_length_lt scene
          cases ok
          simp only [List.length_cons] at *
          omega
        · cases ok
          exact Nat.le_succ _
      · cases ok
        exact Nat.le_succ _
    · split at ok
      · obtain ⟨⟨_, _⟩, step, ok⟩ := bind_eq_ok ok
        have := expect_length_lt step
        obtain ⟨⟨_, _⟩, step, ok⟩ := bind_eq_ok ok
        have := expect_length_lt step
        simp only at ok
        split at ok
        · cases ok
        obtain ⟨⟨_, _⟩, step, ok⟩ := bind_eq_ok ok
        have := expect_length_lt step
        obtain ⟨⟨_, _⟩, step, ok⟩ := bind_eq_ok ok
        have := expect_length_lt step
        obtain ⟨⟨_, _⟩, step, ok⟩ := bind_eq_ok ok
        have := expect_length_lt step
        obtain ⟨⟨_, _⟩, step, ok⟩ := bind_eq_ok ok
        have := expect_length_lt step
        obtain ⟨⟨_, _⟩, step, ok⟩ := bind_eq_ok ok
        have := expect_length_lt step
        cases ok
        simp only [List.length_cons] at *
        omega
      · cases ok

theorem branch_length_lt {stop : Token} {ts rest : List Token} {b : Branch}
    (ok : branch stop ts = .ok (b, rest)) : rest.length < ts.length := by
  obtain ⟨⟨_, afterGuard⟩, guarded, ok⟩ := bind_eq_ok ok
  have : afterGuard.length ≤ ts.length := by
    unfold optionalGuard at guarded
    split at guarded
    · exact guard_length_le guarded
    · cases guarded
      exact Nat.le_refl _
  obtain ⟨⟨_, _⟩, step, ok⟩ := bind_eq_ok ok
  have := expect_length_lt step
  obtain ⟨⟨_, _⟩, step, ok⟩ := bind_eq_ok ok
  have := expect_length_lt step
  obtain ⟨⟨_, _⟩, step, ok⟩ := bind_eq_ok ok
  have := target_length_le step
  cases ok
  simp only at *
  omega

/-- Reads branches up to the closing brace. A comma may follow the last one. -/
def branches (stop : Token) (ts : List Token) : Except Finding (List Branch × List Token) :=
  if (ts.headD stop).kind = .rightBrace then .ok ([], ts)
  else
    match _read : branch stop ts with
    | .error finding => .error finding
    | .ok (b, rest) =>
      match rest with
      | t :: after =>
        if t.kind = .comma then do
          let (bs, rest) ← branches stop after
          return (b :: bs, rest)
        else .ok ([b], rest)
      | [] => .ok ([b], rest)
termination_by ts.length
decreasing_by
  have := branch_length_lt _read
  simp only [List.length_cons] at this
  omega

/-- Reads the branches of a scene, after `select`. -/
def select (stop : Token) (ts : List Token) : Except Finding (List Branch × List Token) := do
  let (_, rest) ← expect stop .leftBrace "after select" ts
  let (bs, rest) ← branches stop rest
  let (_, rest) ← expect stop .rightBrace "to close select" rest
  let (_, rest) ← expect stop .semicolon "after select block" rest
  return (bs, rest)

/-- Reads strings, each with a comma after it or not. -/
def lines : List Token → List Text × List Token
  | [] => ([], [])
  | [t] => if t.kind = .string then ([t.lexeme], []) else ([], [t])
  | t :: c :: rest =>
    if t.kind = .string then
      let (more, after) := if c.kind = .comma then lines rest else lines (c :: rest)
      (t.lexeme :: more, after)
    else ([], t :: c :: rest)

/-- Reads the lines that a scene tells, after `flavortext`. -/
def flavortext (stop : Token) (ts : List Token) : Except Finding (List Text × List Token) := do
  let (_, rest) ← expect stop .leftBrace "after flavortext" ts
  let (told, rest) := lines rest
  let (_, rest) ← expect stop .rightBrace "to close flavortext" rest
  let (_, rest) ← expect stop .semicolon "after flavortext block" rest
  return (told, rest)

/-- Reads an effect after its keyword `start`. -/
def effect (stop start : Token) (ts : List Token) : Except Finding (Effect × List Token) := do
  if start.kind = .get then
    let (item, rest) ← expect stop .string "after get" ts
    let (_, rest) ← expect stop .semicolon "after get directive" rest
    return (.get item.lexeme start.pos, rest)
  else
    let (item, rest) ← expect stop .string "after lose" ts
    let (_, rest) ← expect stop .semicolon "after lose directive" rest
    return (.lose item.lexeme start.pos, rest)

/-- What has been read of a scene. -/
structure Draft where
  effects : List Effect := []
  flavortext : Option (List Text) := none
  /-- The branches and where they start. -/
  select : Option (Pos × List Branch) := none
  deriving DecidableEq, Repr, Inhabited

theorem effect_length_lt {stop start : Token} {ts rest : List Token} {e : Effect}
    (ok : effect stop start ts = .ok (e, rest)) : rest.length < ts.length := by
  unfold effect at ok
  split at ok
  all_goals
    obtain ⟨⟨_, _⟩, step, ok⟩ := bind_eq_ok ok
    have := expect_length_lt step
    obtain ⟨⟨_, _⟩, step, ok⟩ := bind_eq_ok ok
    have := expect_length_lt step
    cases ok
    omega

theorem lines_length_le (ts : List Token) : (lines ts).2.length ≤ ts.length := by
  fun_induction lines ts with
  | case1 => exact Nat.le_refl _
  | case2 => exact Nat.zero_le _
  | case3 => exact Nat.le_refl _
  | case4 t c rest _ more after eq ih ih' =>
    split at eq
    · rw [eq] at ih
      exact Nat.le_succ_of_le (Nat.le_succ_of_le ih)
    · rw [eq] at ih'
      exact Nat.le_succ_of_le ih'
  | case5 => exact Nat.le_refl _

theorem flavortext_length_lt {stop : Token} {ts rest : List Token} {told : List Text}
    (ok : flavortext stop ts = .ok (told, rest)) : rest.length < ts.length := by
  obtain ⟨⟨_, inside⟩, step, ok⟩ := bind_eq_ok ok
  have := expect_length_lt step
  have := lines_length_le inside
  obtain ⟨⟨_, _⟩, step, ok⟩ := bind_eq_ok ok
  have := expect_length_lt step
  obtain ⟨⟨_, _⟩, step, ok⟩ := bind_eq_ok ok
  have := expect_length_lt step
  cases ok
  simp only at *
  omega

theorem branches_length_le {stop : Token} {ts rest : List Token} {bs : List Branch}
    (ok : branches stop ts = .ok (bs, rest)) : rest.length ≤ ts.length := by
  fun_induction branches stop ts generalizing bs rest with
  | case1 =>
    cases ok
    exact Nat.le_refl _
  | case2 => cases ok
  | case3 ts _ b t after read comma _ ih =>
    obtain ⟨⟨_, _⟩, more, ok⟩ := bind_eq_ok ok
    have := ih more
    have := branch_length_lt read
    cases ok
    simp only [List.length_cons] at *
    omega
  | case4 ts _ b t after read comma =>
    cases ok
    exact Nat.le_of_lt (branch_length_lt read)
  | case5 ts _ b read =>
    cases ok
    exact Nat.le_of_lt (branch_length_lt read)

theorem select_length_lt {stop : Token} {ts rest : List Token} {bs : List Branch}
    (ok : select stop ts = .ok (bs, rest)) : rest.length < ts.length := by
  obtain ⟨⟨_, _⟩, step, ok⟩ := bind_eq_ok ok
  have := expect_length_lt step
  obtain ⟨⟨_, _⟩, step, ok⟩ := bind_eq_ok ok
  have := branches_length_le step
  obtain ⟨⟨_, _⟩, step, ok⟩ := bind_eq_ok ok
  have := expect_length_lt step
  obtain ⟨⟨_, _⟩, step, ok⟩ := bind_eq_ok ok
  have := expect_length_lt step
  cases ok
  simp only at *
  omega

/-- Reads what a scene consists of, in any order. The draft is dropped at the first malformed part;
    a repeated part is reported and passed over. -/
def body (stop : Token) (scene : Text) (draft : Draft) (ts : List Token) :
    Option Draft × List Finding :=
  match ts with
  | [] => (some draft, [])
  | t :: rest =>
    if t.kind = .get ∨ t.kind = .lose then
      match _read : effect stop t rest with
      | .error finding => (none, [finding])
      | .ok (e, rest) => body stop scene { draft with effects := draft.effects ++ [e] } rest
    else if t.kind = .flavortext then
      match _read : flavortext stop rest with
      | .error finding => (none, [finding])
      | .ok (told, rest) =>
        if draft.flavortext.isSome then
          let (result, findings) := body stop scene draft rest
          (result, wrong stop rest t.pos (.secondFlavortext scene) :: findings)
        else body stop scene { draft with flavortext := some told } rest
    else if t.kind = .select then
      match _read : select stop rest with
      | .error finding => (none, [finding])
      | .ok (bs, rest) =>
        match draft.select with
        | some (first, _) =>
          let (result, findings) := body stop scene draft rest
          (result, wrong stop rest t.pos (.secondSelect scene first) :: findings)
        | none =>
          let (result, findings) := body stop scene { draft with select := some (t.pos, bs) } rest
          if bs.isEmpty then (result, wrong stop rest t.pos (.emptySelect scene) :: findings)
          else (result, findings)
    else (none, [unexpected stop ts (.expectedSceneItem scene)])
termination_by ts.length
decreasing_by
  · exact Nat.lt_succ_of_lt (effect_length_lt _read)
  · exact Nat.lt_succ_of_lt (flavortext_length_lt _read)
  · exact Nat.lt_succ_of_lt (flavortext_length_lt _read)
  · exact Nat.lt_succ_of_lt (select_length_lt _read)
  · exact Nat.lt_succ_of_lt (select_length_lt _read)

/-! Between scenes: `last` is the token that marks the end of the source. -/

/-- The tokens after a scene, without its `@end-scene`. -/
def closeScene : List Token → List Token
  | [] => []
  | t :: rest => if t.kind = .sceneEnd then skip .semicolon rest else t :: rest

/-- Reads the colon after a name. A missing one is reported and otherwise ignored. -/
def colon (stop : Token) (context : String) (ts : List Token) : List Finding × List Token :=
  match expect stop .colon context ts with
  | .ok (_, rest) => ([], rest)
  | .error finding => ([finding], ts)

/-- Reads a scene from the tokens between its keyword `start` and the boundary `stop`, where `rest`
    is left after the scene. -/
def sceneWithin (start stop : Token) (inside rest : List Token) : Option Scene × List Finding :=
  match expect stop .name "after @scene" inside with
  | .error finding => (none, [finding])
  | .ok (name, inside) =>
    let (missingColon, inside) := colon stop "after scene name" inside
    let (draft?, findings) := body stop name.lexeme {} inside
    match draft? with
    | none => (none, missingColon ++ findings)
    | some draft =>
      match draft.select with
      | some (_, bs) =>
        (some ⟨name.lexeme, start.pos, draft.flavortext, draft.effects, bs⟩,
          missingColon ++ findings)
      | none =>
        (some ⟨name.lexeme, start.pos, draft.flavortext, draft.effects, []⟩,
          missingColon ++ findings ++
            [⟨.error, start.pos, .missingSelect name.lexeme, rest.isEmpty⟩])

/-- Reads a scene after its keyword `start`, up to the next boundary. -/
def scene (last start : Token) (ts : List Token) : Option Scene × List Finding × List Token :=
  let after := seek Kind.isBoundary ts
  let rest := closeScene after
  let (scene?, findings) :=
    sceneWithin start (after.headD last) (ts.takeWhile fun t => !t.kind.isBoundary) rest
  (scene?, findings, rest)

theorem closeScene_length_le (ts : List Token) : (closeScene ts).length ≤ ts.length := by
  cases ts with
  | nil => exact Nat.le_refl _
  | cons t rest =>
    simp only [closeScene]
    split
    · exact Nat.le_succ_of_le (skip_length_le ..)
    · exact Nat.le_refl _

theorem scene_length_le (last start : Token) (ts : List Token) :
    (scene last start ts).2.2.length ≤ ts.length :=
  Nat.le_trans (closeScene_length_le _) (seek_length_le ..)

/-- The tokens after a module, behind its `@end-module`, and a warning if it closes under another
    name. -/
def closeModule (name : Text) (start : Pos) (ts : List Token) : List Finding × List Token :=
  match ts with
  | [] => ([], [])
  | closing :: rest =>
    if closing.kind = .name then
      (if closing.lexeme = name then []
        else [⟨.warning, closing.pos, .mismatchedModuleEnd closing.lexeme name start,
          rest.isEmpty⟩],
        skip .semicolon rest)
    else ([], skip .semicolon ts)

/-- Reads the scenes of a module and its end. `seen` are the scenes so far; of scenes with one name
    the first counts. -/
def scenes (last : Token) (module : Text) (start : Pos) (seen : List Scene) (ts : List Token) :
    List Scene × List Finding × List Token :=
  match ts with
  | [] => (seen, [⟨.error, start, .missingModuleEnd module, true⟩], [])
  | t :: rest =>
    if t.kind = .sceneStart then
      match _read : scene last t rest with
      | (scene?, findings, after) =>
        match scene? with
        | none =>
          let (found, more, left) := scenes last module start seen after
          (found, findings ++ more, left)
        | some s =>
          match seen.find? fun earlier => earlier.name = s.name with
          | some first =>
            let (found, more, left) := scenes last module start seen after
            (found, findings ++
              ⟨.error, s.pos, .duplicateScene s.name module first.pos, after.isEmpty⟩ :: more, left)
          | none =>
            let (found, more, left) := scenes last module start (seen ++ [s]) after
            (found, findings ++ more, left)
    else if t.kind = .moduleEnd then
      let (warnings, left) := closeModule module start rest
      (seen, warnings, left)
    else if t.kind = .moduleStart then
      (seen, [⟨.error, start, .missingModuleEnd module, false⟩], ts)
    else
      let (found, more, left) :=
        scenes last module start seen (seek Kind.continuesModule rest)
      (found, ⟨.error, t.pos, .expectedScene module t, false⟩ :: more, left)
termination_by ts.length
decreasing_by
  · have := scene_length_le last t rest
    rw [_read] at this
    exact Nat.lt_succ_of_le this
  · have := scene_length_le last t rest
    rw [_read] at this
    exact Nat.lt_succ_of_le this
  · have := scene_length_le last t rest
    rw [_read] at this
    exact Nat.lt_succ_of_le this
  · exact Nat.lt_succ_of_le (seek_length_le ..)

/-- The tokens after a module without a name, behind its `@end-module`. -/
def closeNameless : List Token → List Token
  | [] => []
  | t :: rest =>
    if t.kind = .moduleEnd then skip .semicolon (skip .name rest) else t :: rest

/-- Reads a module after its keyword `start`. -/
def module (last : Token) (file : Text) (start : Token) (ts : List Token) :
    Option Module × List Finding × List Token :=
  match expect last .name "after @module" ts with
  | .error finding => (none, [finding], closeNameless (seek Kind.boundsModule ts))
  | .ok (name, rest) =>
    let (missingColon, rest) := colon last "after module name" rest
    let (found, findings, left) := scenes last name.lexeme start.pos [] rest
    (some ⟨name.lexeme, start.pos, file, found⟩, missingColon ++ findings, left)

theorem closeModule_length_le (name : Text) (start : Pos) (ts : List Token) :
    (closeModule name start ts).2.length ≤ ts.length := by
  unfold closeModule
  split
  · exact Nat.le_refl _
  · split
    · exact Nat.le_succ_of_le (skip_length_le ..)
    · next rest _ => exact skip_length_le .semicolon (_ :: rest)

theorem scenes_length_le (last : Token) (module : Text) (start : Pos) (seen : List Scene)
    (ts : List Token) : (scenes last module start seen ts).2.2.length ≤ ts.length := by
  fun_induction scenes last module start seen ts with
  | case1 => exact Nat.le_refl _
  | case2 seen t rest _ findings after read found more left eq _ ih =>
    have := scene_length_le last t rest
    rw [read] at this
    rw [eq] at ih
    exact Nat.le_succ_of_le (Nat.le_trans ih this)
  | case3 seen t rest _ findings after s read first _ found more left eq _ ih =>
    have := scene_length_le last t rest
    rw [read] at this
    rw [eq] at ih
    exact Nat.le_succ_of_le (Nat.le_trans ih this)
  | case4 seen t rest _ findings after s read _ found more left eq _ ih =>
    have := scene_length_le last t rest
    rw [read] at this
    rw [eq] at ih
    exact Nat.le_succ_of_le (Nat.le_trans ih this)
  | case5 seen t rest _ _ warnings left eq =>
    have := closeModule_length_le module start rest
    rw [eq] at this
    exact Nat.le_succ_of_le this
  | case6 => exact Nat.le_refl _
  | case7 seen t rest _ _ _ found more left eq ih =>
    rw [eq] at ih
    exact Nat.le_succ_of_le (Nat.le_trans ih (seek_length_le ..))

theorem colon_length_le (stop : Token) (context : String) (ts : List Token) :
    (colon stop context ts).2.length ≤ ts.length := by
  unfold colon
  split
  · next ok => exact Nat.le_of_lt (expect_length_lt ok)
  · exact Nat.le_refl _

theorem closeNameless_length_le (ts : List Token) : (closeNameless ts).length ≤ ts.length := by
  cases ts with
  | nil => exact Nat.le_refl _
  | cons t rest =>
    simp only [closeNameless]
    split
    · exact Nat.le_succ_of_le (Nat.le_trans (skip_length_le ..) (skip_length_le ..))
    · exact Nat.le_refl _

theorem module_length_le (last : Token) (file : Text) (start : Token) (ts : List Token) :
    (module last file start ts).2.2.length ≤ ts.length := by
  unfold module
  split
  · exact Nat.le_trans (closeNameless_length_le _) (seek_length_le ..)
  · next name rest ok =>
    exact Nat.le_trans (scenes_length_le ..)
      (Nat.le_trans (colon_length_le ..) (Nat.le_of_lt (expect_length_lt ok)))

/-- Reads the modules of a file. `seen` are the modules so far; of modules with one name the first
    counts. -/
def modules (last : Token) (file : Text) (seen : List Module) (ts : List Token) :
    List Module × List Finding :=
  match ts with
  | [] => (seen, [])
  | t :: rest =>
    if t.kind = .moduleStart then
      match _read : module last file t rest with
      | (module?, findings, after) =>
        match module? with
        | none =>
          let (found, more) := modules last file seen after
          (found, findings ++ more)
        | some m =>
          match seen.find? fun earlier => earlier.name = m.name with
          | some first =>
            let (found, more) := modules last file seen after
            (found, findings ++
              ⟨.error, m.pos, .duplicateModule m.name first.pos, after.isEmpty⟩ :: more)
          | none =>
            let (found, more) := modules last file (seen ++ [m]) after
            (found, findings ++ more)
    else
      let (found, more) := modules last file seen (seek (· = .moduleStart) rest)
      (found, ⟨.error, t.pos, .expectedModule t, false⟩ :: more)
termination_by ts.length
decreasing_by
  · have := module_length_le last file t rest
    rw [_read] at this
    exact Nat.lt_succ_of_le this
  · have := module_length_le last file t rest
    rw [_read] at this
    exact Nat.lt_succ_of_le this
  · have := module_length_le last file t rest
    rw [_read] at this
    exact Nat.lt_succ_of_le this
  · exact Nat.lt_succ_of_le (seek_length_le ..)

/-- A finding in a file. -/
def Finding.diagnostic (file : Text) (f : Finding) : Diagnostic :=
  ⟨f.severity, f.problem, file, f.pos⟩

/-- The diagnostic for a failure to read tokens on, where `last` marks the place at which they end. -/
def failureDiagnostic (file : Text) (last : Token) (failure : Failure) : Diagnostic :=
  match failure.report? with
  | some r =>
    ⟨.error, r.problem, file,
      if 0 < r.place.line then ⟨r.place.line, r.place.column⟩ else last.pos⟩
  | none => ⟨.error, .reported .lexical failure.text, file, last.pos⟩

/-- The findings as diagnostics. If the tokens could not be read to their end, the failure stands
    where that showed, and only warnings come after it. -/
def diagnostics (file : Text) (ts : Source.Tokens) (findings : List Finding) : List Diagnostic :=
  match ts.failure with
  | none => findings.map (Finding.diagnostic file)
  | some failure =>
    ((findings.filter fun f => !f.atEnd).map (Finding.diagnostic file)) ++
      failureDiagnostic file ts.last failure ::
      ((findings.filter fun f => f.atEnd && f.severity = .warning).map (Finding.diagnostic file))

end Reading

namespace Script

/-- Reads a script from tokens. The script is complete only if no diagnostic is an error. -/
def ofTokens (file : Text) (ts : Source.Tokens) : Script × List Diagnostic :=
  let (modules, findings) := Reading.modules ts.last file [] ts.list
  (⟨file, modules⟩, Reading.diagnostics file ts findings)

/-- Reads a script from a source. -/
def parse (s : Source) : Script × List Diagnostic :=
  ofTokens s.file s.tokens

end Script

end Gamebook
