import Gamebook.Script.Parse

/-! # Reading a script token by token

The readers here take their tokens from a source one at a time and never look back: at any time there
is one token at hand. They tell what they find as they find it. When the source fails, that is told
too, the end is at hand from then on, and errors are noise that is not told any more. Nothing in
the definitions says that reading comes to an end, or where.
-/

namespace Gamebook.Reading

/-- A source that is read token by token, with what has been told so far. -/
structure Feed where
  file : Text
  source : Source
  /-- The token at hand. -/
  token : Token
  /-- Whether the source has failed. -/
  failed : Bool
  told : List Diagnostic
  deriving Inhabited

namespace Feed

/-- Takes the next token from the source. -/
def advance (f : Feed) : Feed :=
  if f.failed then f
  else
    let scan := f.source.next
    let taken := { f with source := scan.source, token := scan.token }
    match scan.failure with
    | some failure =>
      { taken with failed := true, told := f.told ++ [failureDiagnostic f.file scan.token failure] }
    | none => taken

def tell (severity : Severity) (pos : Pos) (problem : Problem) (f : Feed) : Feed :=
  { f with told := f.told ++ [⟨severity, problem, f.file, pos⟩] }

/-- Tells an error, unless the source has failed. -/
def error (pos : Pos) (problem : Problem) (f : Feed) : Feed :=
  if f.failed then f else f.tell .error pos problem

/-- A feed with the first token of a source at hand. -/
def ofSource (s : Source) : Feed :=
  advance ⟨s.file, s, default, false, []⟩

end Feed

/-- A reader that takes tokens from a feed. It has a result or fails, or goes on for ever. -/
abbrev Pull (α : Type) := OptionT (StateT Feed Option) α

namespace Pull

variable {α β : Type}

/-- The result of a reader, and the feed as it leaves it. -/
def on (x : Pull α) (f : Feed) : Option (Option α × Feed) :=
  x.run.run f

def token : Pull Token := do
  return (← get).token

def advance : Pull Unit :=
  modify Feed.advance

def error (pos : Pos) (problem : Problem) : Pull Unit :=
  modify (Feed.error pos problem)

def warn (pos : Pos) (problem : Problem) : Pull Unit :=
  modify (Feed.tell .warning pos problem)

def fail (pos : Pos) (problem : Problem) : Pull α := do
  error pos problem
  failure

/-- A reader after which reading goes on, whether it failed or not. -/
def attempt (x : Pull α) : Pull (Option α) :=
  OptionT.lift x.run

/-- Repeats a step, which looks at the token at hand and has either something to go on with or the
    result. -/
def loop [Nonempty β] (step : α → Token → Pull (α ⊕ β)) : α → Pull β :=
  repeatM fun a => do step a (← token)

def expect (wanted : Kind) (context : String) : Pull Token := do
  let t ← token
  if t.kind = wanted then
    advance
    return t
  else fail t.pos (.expected wanted context t)

/-- Takes a token of the given kind, if it is at hand. -/
def accept (kind : Kind) : Pull Bool := do
  let t ← token
  if t.kind = kind then
    advance
    return true
  else return false

def skip (kind : Kind) : Pull Unit := do
  let _ ← accept kind

def syncStep (accepts : Kind → Bool) (_ : Unit) (t : Token) : Pull (Unit ⊕ Unit) := do
  if t.kind = .endOfInput ∨ accepts t.kind then return .inr ()
  else
    advance
    return .inl ()

/-- Passes over tokens up to one whose kind is accepted. -/
def syncTo (accepts : Kind → Bool) : Pull Unit :=
  loop (syncStep accepts) ()

def target : Pull Target := do
  let t ← token
  if t.kind = .name then
    advance
    if ← accept .scope then
      let scene ← expect .name "as scene name after ::"
      return .sameFile (some t.lexeme) scene.lexeme
    else return .sameFile none t.lexeme
  else if t.kind = .fileRef then
    advance
    let _ ← expect .leftParen "after @file"
    let path ← expect .string "as @file path"
    if path.lexeme.trim.isEmpty then fail path.pos .blankFilePath
    else
      let _ ← expect .rightParen "after @file path"
      let _ ← expect .scope "after @file(...)"
      let module ← expect .name "as module name in @file reference"
      let _ ← expect .scope "after module name"
      let scene ← expect .name "as scene name in @file reference"
      return .otherFile path.lexeme module.lexeme scene.lexeme
  else fail t.pos (.expectedTarget t)

def condition : Pull Condition := do
  let _ ← expect .has "in option guard"
  if ← accept .no then
    let item ← expect .string "after has"
    return .lacks item.lexeme
  else
    let item ← expect .string "after has"
    return .has item.lexeme

/-- Reads one more condition of a guard. -/
def guardStep (seen : List Condition) (_ : Token) : Pull (List Condition ⊕ List Condition) := do
  let c ← condition
  if ← accept .comma then return .inl (seen ++ [c])
  else
    let _ ← expect .question "to end option guard"
    return .inr (seen ++ [c])

def guard : Pull (List Condition) :=
  loop guardStep []

def optionalGuard : Pull (List Condition) := do
  let t ← token
  if t.kind = .has then guard
  else return []

def branch : Pull Branch := do
  let start ← token
  let guard ← optionalGuard
  let label ← expect .string "as option label"
  let _ ← expect .arrow "after option label"
  let target ← target
  return ⟨label.lexeme, guard, target, start.pos⟩

/-- Reads one more branch, if there is one. -/
def branchStep (seen : List Branch) (t : Token) : Pull (List Branch ⊕ List Branch) := do
  if t.kind = .rightBrace then return .inr seen
  else
    let b ← branch
    if ← accept .comma then return .inl (seen ++ [b])
    else return .inr (seen ++ [b])

def branches : Pull (List Branch) :=
  loop branchStep []

def select : Pull (List Branch) := do
  let _ ← expect .leftBrace "after select"
  let bs ← branches
  let _ ← expect .rightBrace "to close select"
  let _ ← expect .semicolon "after select block"
  return bs

/-- Reads one more line, if there is one. -/
def lineStep (seen : List Text) (t : Token) : Pull (List Text ⊕ List Text) := do
  if t.kind = .string then
    advance
    let _ ← accept .comma
    return .inl (seen ++ [t.lexeme])
  else return .inr seen

def lines : Pull (List Text) :=
  loop lineStep []

def flavortext : Pull (List Text) := do
  let _ ← expect .leftBrace "after flavortext"
  let told ← lines
  let _ ← expect .rightBrace "to close flavortext"
  let _ ← expect .semicolon "after flavortext block"
  return told

def effect (start : Token) : Pull Effect := do
  if start.kind = .get then
    let item ← expect .string "after get"
    let _ ← expect .semicolon "after get directive"
    return .get item.lexeme start.pos
  else
    let item ← expect .string "after lose"
    let _ ← expect .semicolon "after lose directive"
    return .lose item.lexeme start.pos

/-- Reads one more part of a scene, if there is one. -/
def bodyStep (scene : Text) (draft : Draft) (t : Token) : Pull (Draft ⊕ Draft) := do
  if t.kind = .get ∨ t.kind = .lose then
    advance
    let e ← effect t
    return .inl { draft with effects := draft.effects ++ [e] }
  else if t.kind = .flavortext then
    advance
    let told ← flavortext
    if draft.flavortext.isSome then
      error t.pos (.secondFlavortext scene)
      return .inl draft
    else return .inl { draft with flavortext := some told }
  else if t.kind = .select then
    advance
    let bs ← select
    match draft.select with
    | some (first, _) =>
      error t.pos (.secondSelect scene first)
      return .inl draft
    | none =>
      if bs.isEmpty then error t.pos (.emptySelect scene)
      return .inl { draft with select := some (t.pos, bs) }
  else if t.kind = .endOfInput ∨ t.kind.isBoundary then return .inr draft
  else fail t.pos (.expectedSceneItem scene t)

def body (scene : Text) (draft : Draft) : Pull Draft :=
  loop (bodyStep scene) draft

def closeScene : Pull Unit := do
  if ← accept .sceneEnd then skip .semicolon

/-- Reads the name of a scene and what it consists of. -/
def parts : Pull (Text × Draft) := do
  let name ← expect .name "after @scene"
  let _ ← attempt (expect .colon "after scene name")
  let draft ← body name.lexeme {}
  return (name.lexeme, draft)

/-- Reads a scene after its keyword. After a malformed one reading goes on at the next boundary. -/
def scene (start : Token) : Pull Scene := do
  match ← attempt parts with
  | none =>
    syncTo Kind.isBoundary
    closeScene
    failure
  | some (name, draft) =>
    closeScene
    match draft.select with
    | some (_, bs) => return ⟨name, start.pos, draft.flavortext, draft.effects, bs⟩
    | none =>
      error start.pos (.missingSelect name)
      return ⟨name, start.pos, draft.flavortext, draft.effects, []⟩

def closeModule (name : Text) (start : Pos) : Pull Unit := do
  let closing ← token
  if closing.kind = .name then
    advance
    if closing.lexeme ≠ name then
      warn closing.pos (.mismatchedModuleEnd closing.lexeme name start)
  skip .semicolon

/-- Reads one more scene of a module, or its end. -/
def scenesStep (module : Text) (start : Pos) (seen : List Scene) (t : Token) :
    Pull (List Scene ⊕ List Scene) := do
  if t.kind = .sceneStart then
    advance
    match ← attempt (scene t) with
    | none => return .inl seen
    | some s =>
      match seen.find? fun earlier => earlier.name = s.name with
      | some first =>
        error s.pos (.duplicateScene s.name module first.pos)
        return .inl seen
      | none => return .inl (seen ++ [s])
  else if t.kind = .moduleEnd then
    advance
    closeModule module start
    return .inr seen
  else if t.kind = .moduleStart ∨ t.kind = .endOfInput then
    error start (.missingModuleEnd module)
    return .inr seen
  else
    error t.pos (.expectedScene module t)
    advance
    syncTo Kind.continuesModule
    return .inl seen

def scenes (module : Text) (start : Pos) (seen : List Scene) : Pull (List Scene) :=
  loop (scenesStep module start) seen

def closeNameless : Pull Unit := do
  if ← accept .moduleEnd then
    skip .name
    skip .semicolon

/-- Reads a module after its keyword. -/
def module (file : Text) (start : Token) : Pull Module := do
  match ← attempt (expect .name "after @module") with
  | none =>
    syncTo Kind.boundsModule
    closeNameless
    failure
  | some name =>
    let _ ← attempt (expect .colon "after module name")
    let found ← scenes name.lexeme start.pos []
    return ⟨name.lexeme, start.pos, file, found⟩

/-- Reads one more module, if there is one. -/
def modulesStep (file : Text) (seen : List Module) (t : Token) :
    Pull (List Module ⊕ List Module) := do
  if t.kind = .endOfInput then return .inr seen
  else if t.kind = .moduleStart then
    advance
    match ← attempt (module file t) with
    | none => return .inl seen
    | some m =>
      match seen.find? fun earlier => earlier.name = m.name with
      | some first =>
        error m.pos (.duplicateModule m.name first.pos)
        return .inl seen
      | none => return .inl (seen ++ [m])
  else
    error t.pos (.expectedModule t)
    advance
    syncTo (· = .moduleStart)
    return .inl seen

def modules (file : Text) (seen : List Module) : Pull (List Module) :=
  loop (modulesStep file) seen

/-- Reads a script from a source, token by token. -/
def script (s : Source) : Option (Option (List Module) × Feed) :=
  (modules s.file []).on (.ofSource s)

/-- The script that is read token by token, and what is told of it, if reading comes to an end. -/
def parse? (s : Source) : Option (Script × List Diagnostic) :=
  (script s).bind fun r => r.1.map fun modules => (⟨s.file, modules⟩, r.2.told)

/-! How the readers run, step by step. -/

section Steps

variable {f g : Feed}

theorem on_token_bind (next : Token → Pull α) (f : Feed) :
    (token >>= next).on f = (next f.token).on f :=
  rfl

theorem on_advance_bind (next : Unit → Pull α) (f : Feed) :
    (advance >>= next).on f = (next ()).on f.advance :=
  rfl

theorem on_error_bind (pos : Pos) (problem : Problem) (next : Unit → Pull α) (f : Feed) :
    (error pos problem >>= next).on f = (next ()).on (f.error pos problem) :=
  rfl

theorem on_bind_some {x : Pull α} {next : α → Pull β} {a : α} (run : x.on f = some (some a, g)) :
    (x >>= next).on f = (next a).on g := by
  rw [on] at run
  simp [on, Option.elimM, run]

theorem on_bind_none {x : Pull α} {next : α → Pull β} (run : x.on f = some (none, g)) :
    (x >>= next).on f = some (none, g) := by
  rw [on] at run
  simp [on, Option.elimM, run]

theorem on_attempt_bind {x : Pull α} {next : Option α → Pull β} {result : Option α}
    (run : x.on f = some (result, g)) : (attempt x >>= next).on f = (next result).on g := by
  refine on_bind_some ?_
  rw [on] at run
  simp [on, attempt, run]

/-- A loop is a step and then the rest of the loop. -/
theorem on_loop [Nonempty β] (step : α → Token → Pull (α ⊕ β)) (a : α) (f : Feed) :
    (loop step a).on f = (step a f.token >>= Sum.elim (loop step) pure).on f := by
  have unfolds : loop step a = (token >>= step a) >>= Sum.elim (loop step) pure := by
    refine (repeatM_eq_of_monadTail a).trans (bind_congr fun next => ?_)
    cases next with
    | inl a => rfl
    | inr b => rfl
  rw [unfolds, bind_assoc, on_token_bind]

theorem on_accept_bind (kind : Kind) (next : Bool → Pull α) (f : Feed) :
    (accept kind >>= next).on f =
      if f.token.kind = kind then (next true).on f.advance else (next false).on f := by
  rw [accept, bind_assoc, on_token_bind]
  split
  · rfl
  · rfl

variable {t : Token} (front : f.token = t)
include front

theorem on_body_effect (scene : Text) (draft : Draft) (isEffect : t.kind = .get ∨ t.kind = .lose) :
    (body scene draft).on f =
      (effect t >>= fun e =>
        body scene { draft with effects := draft.effects ++ [e] }).on f.advance := by
  rw [body, on_loop, bodyStep, front, if_pos isEffect, bind_assoc, on_advance_bind, bind_assoc]
  rfl

theorem on_body_flavortext (scene : Text) (draft : Draft) (isStory : t.kind = .flavortext) :
    (body scene draft).on f =
      (flavortext >>= fun told =>
        if draft.flavortext.isSome then
          error t.pos (.secondFlavortext scene) >>= fun _ => body scene draft
        else body scene { draft with flavortext := some told }).on f.advance := by
  rw [body, on_loop, bodyStep, front, if_neg (by simp [isStory]), if_pos isStory, bind_assoc,
    on_advance_bind, bind_assoc]
  refine congrArg (on · f.advance) (bind_congr fun told => ?_)
  split
  · rfl
  · rfl

theorem on_body_select (scene : Text) (draft : Draft) (isSelect : t.kind = .select) :
    (body scene draft).on f =
      (select >>= fun bs =>
        match draft.select with
        | some (first, _) => error t.pos (.secondSelect scene first) >>= fun _ => body scene draft
        | none =>
          if bs.isEmpty then
            error t.pos (.emptySelect scene) >>= fun _ =>
              body scene { draft with select := some (t.pos, bs) }
          else body scene { draft with select := some (t.pos, bs) }).on f.advance := by
  rw [body, on_loop, bodyStep, front, if_neg (by simp [isSelect]), if_neg (by simp [isSelect]),
    if_pos isSelect, bind_assoc, on_advance_bind, bind_assoc]
  refine congrArg (on · f.advance) (bind_congr fun bs => ?_)
  split
  · rfl
  · split
    · rfl
    · rfl

theorem on_scenes_start (module : Text) (start : Pos) (seen : List Scene)
    (isStart : t.kind = .sceneStart) :
    (scenes module start seen).on f =
      (attempt (Pull.scene t) >>= fun
        | none => scenes module start seen
        | some s =>
          match seen.find? fun earlier => earlier.name = s.name with
          | some first =>
            error s.pos (.duplicateScene s.name module first.pos) >>= fun _ =>
              scenes module start seen
          | none => scenes module start (seen ++ [s])).on f.advance := by
  rw [scenes, on_loop, scenesStep, front, if_pos isStart, bind_assoc, on_advance_bind, bind_assoc]
  refine congrArg (on · f.advance) (bind_congr fun s? => ?_)
  cases s? with
  | none => rfl
  | some s =>
    dsimp only
    split
    · rfl
    · rfl

theorem on_modules_start (file : Text) (seen : List Module) (isStart : t.kind = .moduleStart) :
    (modules file seen).on f =
      (attempt (module file t) >>= fun
        | none => modules file seen
        | some m =>
          match seen.find? fun earlier => earlier.name = m.name with
          | some first =>
            error m.pos (.duplicateModule m.name first.pos) >>= fun _ => modules file seen
          | none => modules file (seen ++ [m])).on f.advance := by
  rw [modules, on_loop, modulesStep, front, if_neg (by simp [isStart]), if_pos isStart, bind_assoc,
    on_advance_bind, bind_assoc]
  refine congrArg (on · f.advance) (bind_congr fun m? => ?_)
  cases m? with
  | none => rfl
  | some m =>
    dsimp only
    split
    · rfl
    · rfl

end Steps

end Pull

end Gamebook.Reading
