import Gamebook.Proofs.Script.Writable

/-! # Printing and reading back

What is printed for a part of a writable module is read as the tokens of that part, with what stands
between the quotes for each string. Tokens with the kinds and texts of a part are in the grammar, as
that part at some position. So a module is read back from what is printed for it, without any
diagnostics, and unchanged exactly if all its strings are plain.
-/

namespace Gamebook

open Grammar

/-! ## The tokens of a part -/

def Effect.contents : Effect → List (Kind × Text)
  | .get item _ => [Kind.get.content, (.string, item), Kind.semicolon.content]
  | .lose item _ => [Kind.lose.content, (.string, item), Kind.semicolon.content]

def Condition.contents : Condition → List (Kind × Text)
  | .has item => [Kind.has.content, (.string, item)]
  | .lacks item => [Kind.has.content, Kind.no.content, (.string, item)]

def Target.contents : Target → List (Kind × Text)
  | .sameFile none scene => [(.name, scene)]
  | .sameFile (some module) scene => [(.name, module), Kind.scope.content, (.name, scene)]
  | .otherFile path module scene =>
    [Kind.fileRef.content, Kind.leftParen.content, (.string, path), Kind.rightParen.content,
     Kind.scope.content, (.name, module), Kind.scope.content, (.name, scene)]

namespace Branch

/-- The tokens of a guard, up to the question mark. -/
def guardContents : List Condition → List (Kind × Text)
  | [] => []
  | [c] => c.contents ++ [Kind.question.content]
  | c :: cs => c.contents ++ Kind.comma.content :: guardContents cs

def contents (b : Branch) : List (Kind × Text) :=
  guardContents b.guard ++ (.string, b.label) :: Kind.arrow.content :: b.target.contents

end Branch

namespace Scene

def flavortextContents : Option (List Text) → List (Kind × Text)
  | none => []
  | some lines =>
    Kind.flavortext.content :: Kind.leftBrace.content :: lines.map (fun line => (.string, line)) ++
      [Kind.rightBrace.content, Kind.semicolon.content]

def branchesContents : List Branch → List (Kind × Text)
  | [] => []
  | [b] => b.contents
  | b :: bs => b.contents ++ Kind.comma.content :: branchesContents bs

def selectContents (branches : List Branch) : List (Kind × Text) :=
  Kind.select.content :: Kind.leftBrace.content :: branchesContents branches ++
    [Kind.rightBrace.content, Kind.semicolon.content]

def contents (s : Scene) : List (Kind × Text) :=
  Kind.sceneStart.content :: (.name, s.name) :: Kind.colon.content ::
    (s.effects.flatMap Effect.contents ++ (flavortextContents s.flavortext ++
      selectContents s.branches)) ++ [Kind.sceneEnd.content]

end Scene

def Module.contents (m : Module) : List (Kind × Text) :=
  Kind.moduleStart.content :: (.name, m.name) :: Kind.colon.content ::
    m.scenes.flatMap Scene.contents ++ [Kind.moduleEnd.content, (.name, m.name)]

/-! ## What is printed is read as the tokens of the part -/

namespace Text

variable {rest : Text} {ks : List (Kind × Text)}

-- What is printed is taken from its end: in front of a text that is read as some tokens, the text of
-- a part is read as the tokens of the part.

theorem spells_flatMap {α : Type} {line : α → Text} {contents : α → List (Kind × Text)}
    {as : List α}
    (each : ∀ a ∈ as, ∀ {rest ks}, Spells rest ks → Spells (line a ++ rest) (contents a ++ ks))
    (spells : rest.Spells ks) : Spells (as.flatMap line ++ rest) (as.flatMap contents ++ ks) := by
  induction as with
  | nil => exact spells
  | cons a as ih =>
    obtain ⟨first, others⟩ := List.forall_mem_cons.mp each
    rw [List.flatMap_cons, List.flatMap_cons, List.append_assoc, List.append_assoc]
    exact first (ih others)

theorem spells_effectLine {e : Effect} (writable : e.Writable) (spells : rest.Spells ks) :
    Spells (Scene.effectLine e ++ rest) ((e.reworded escaped).contents ++ ks) := by
  have item : Spells (e.item.quoted ++ (Kind.semicolon.text ++ ("\n" ++ rest)))
      ((.string, e.item.escaped) :: Kind.semicolon.content :: ks) :=
    .string writable (.mark .semicolon (by decide) (spells.gap "\n" (by decide)))
  simp only [Scene.effectLine, List.append_assoc]
  refine .gap "    " (by decide) ?_
  cases e with
  | get =>
    rw [Effect.text, List.append_assoc]
    exact item.reserved .get (by decide)
  | lose =>
    rw [Effect.text, List.append_assoc]
    exact item.reserved .lose (by decide)

theorem spells_effects {es : List Effect} (writable : ∀ e ∈ es, e.Writable)
    (spells : rest.Spells ks) :
    Spells (es.flatMap Scene.effectLine ++ rest)
      ((es.map (Effect.reworded escaped)).flatMap Effect.contents ++ ks) := by
  rw [List.flatMap_map]
  exact spells_flatMap (fun e member => spells_effectLine (writable e member)) spells

theorem spells_condition {c : Condition} (writable : c.Writable) (spells : rest.Spells ks) :
    Spells (c.text ++ rest) ((c.reworded escaped).contents ++ ks) := by
  cases c with
  | has item =>
    have string := spells.string (writable item List.mem_cons_self)
    rw [Condition.text, List.append_assoc]
    exact string.reserved .has (by decide)
  | lacks item =>
    have string := spells.string (writable item List.mem_cons_self)
    rw [Condition.text, List.append_assoc]
    exact (string.reserved .no (by decide)).reserved .has (by decide)

theorem spells_guard {cs : List Condition} (writable : ∀ c ∈ cs, c.Writable)
    (spells : rest.Spells ks) :
    Spells (join ", " (cs.map Condition.text) ++ ((if cs.isEmpty then "" else " ? ") ++ rest))
      (Branch.guardContents (cs.map (Condition.reworded escaped)) ++ ks) := by
  match cs with
  | [] => exact spells
  | [c] =>
    have question := (spells.gap " " (by decide)).mark .question (by decide)
    have condition :=
      spells_condition (writable c List.mem_cons_self) (question.gap " " (by decide))
    simp only [List.map_cons, List.map_nil, join, List.isEmpty_cons, Bool.false_eq_true, if_false,
      Branch.guardContents, List.append_assoc]
    exact condition
  | c :: d :: cs =>
    obtain ⟨first, others⟩ := List.forall_mem_cons.mp writable
    have later := spells_guard others spells
    have comma := (later.gap " " (by decide)).mark .comma (by decide)
    simp only [List.map_cons, join, Branch.guardContents, List.append_assoc]
    exact spells_condition first comma

theorem spells_target {x : Target} (writable : x.Writable) (spells : rest.Spells ks)
    (ends : rest.Ends) : Spells (x.text ++ rest) ((x.reworded escaped).contents ++ ks) := by
  have within {module scene : Text} (isModule : module.IsName) (isScene : scene.IsName) :
      Spells (module ++ (Kind.scope.text ++ (scene ++ rest)))
        ((.name, module) :: Kind.scope.content :: (.name, scene) :: ks) :=
    .word isModule (.scope (spells.word isScene ends)) (ends_append Kind.scope.text (by decide))
  match x with
  | .sameFile none scene => exact spells.word writable.2 ends
  | .sameFile (some module) scene =>
    simp only [Target.text, List.append_assoc]
    exact within (writable.1 module rfl) writable.2
  | .otherFile path module scene =>
    obtain ⟨string, -, isModule, isScene⟩ := writable
    have file := (within isModule isScene).scope.mark .rightParen (by decide)
    have opened := (file.string string).mark .leftParen (by decide)
    simp only [Target.text, Address.text, List.append_assoc]
    exact opened.keyword .fileRef (by decide) (ends_append Kind.leftParen.text (by decide))

theorem spells_branch {b : Branch} (writable : b.Writable) (spells : rest.Spells ks)
    (ends : rest.Ends) : Spells (b.text ++ rest) ((b.reworded escaped).contents ++ ks) := by
  have leads := (spells_target writable.target spells ends).gap " " (by decide)
  have label := (leads.arrow.gap " " (by decide)).string writable.label
  simp only [Branch.text, Branch.contents, Branch.reworded, List.append_assoc]
  exact spells_guard writable.guard label

/-- Branches with commas between them. -/
theorem spells_join {bs : List Branch} (some : bs ≠ []) (writable : ∀ b ∈ bs, b.Writable)
    (spells : rest.Spells ks) (ends : rest.Ends) :
    Spells (join ",\n" (bs.map fun b => "        " ++ b.text) ++ rest)
      (Scene.branchesContents (bs.map (Branch.reworded escaped)) ++ ks) := by
  match bs with
  | [] => exact absurd rfl some
  | [b] =>
    have branch := spells_branch (writable b List.mem_cons_self) spells ends
    simp only [List.map_cons, List.map_nil, join, List.append_assoc]
    exact branch.gap "        " (by decide)
  | b :: c :: bs =>
    obtain ⟨first, others⟩ := List.forall_mem_cons.mp writable
    have later := spells_join (List.cons_ne_nil c bs) others spells ends
    have comma := (later.gap "\n" (by decide)).mark .comma (by decide)
    have branch := spells_branch first comma (ends_append Kind.comma.text (by decide))
    simp only [List.map_cons, join, Scene.branchesContents, List.append_assoc]
    exact branch.gap "        " (by decide)

/-- The end of a block, on a line of its own. -/
theorem spells_closing (spells : rest.Spells ks) :
    Spells ("    \x7d;\n" ++ rest)
      (Kind.rightBrace.content :: Kind.semicolon.content :: ks) := by
  have mark := (spells.gap "\n" (by decide)).mark .semicolon (by decide)
  exact (mark.mark .rightBrace (by decide)).gap "    " (by decide)

theorem spells_select {bs : List Branch} (some : bs ≠ []) (writable : ∀ b ∈ bs, b.Writable)
    (spells : rest.Spells ks) :
    Spells ("    select \x7b\n" ++ (Scene.branchesText bs ++ ("    \x7d;\n" ++ rest)))
      (Scene.selectContents (bs.map (Branch.reworded escaped)) ++ ks) := by
  have branches := spells_join some writable ((spells_closing spells).gap "\n" (by decide))
    (ends_append "\n" (by decide))
  have opened := (branches.gap "\n" (by decide)).mark .leftBrace (by decide)
  have key := opened.reserved .select (by decide)
  simp only [Scene.branchesText, List.isEmpty_iff, some, if_false, Scene.selectContents,
    List.append_assoc]
  exact key.gap "    " (by decide)

theorem spells_lines {ls : List Text} (strings : ∀ l ∈ ls, l.IsString) (spells : rest.Spells ks) :
    Spells (ls.flatMap Scene.flavortextLine ++ rest)
      ((ls.map escaped).map (fun line => (.string, line)) ++ ks) := by
  induction ls with
  | nil => exact spells
  | cons l ls ih =>
    obtain ⟨first, others⟩ := List.forall_mem_cons.mp strings
    have line := ((ih others).gap "\n" (by decide)).string first
    simp only [List.flatMap_cons, Scene.flavortextLine, List.append_assoc, List.map_cons]
    exact line.gap "        " (by decide)

theorem spells_flavortext {told : Option (List Text)}
    (strings : ∀ lines ∈ told, ∀ l ∈ lines, l.IsString) (spells : rest.Spells ks) :
    Spells (Scene.flavortextText told ++ rest)
      (Scene.flavortextContents (told.map (List.map escaped)) ++ ks) := by
  cases told with
  | none => exact spells
  | some lines =>
    have inside := spells_lines (strings lines rfl) (spells_closing spells)
    have opened := (inside.gap "\n" (by decide)).mark .leftBrace (by decide)
    have key := opened.reserved .flavortext (by decide)
    simp only [Scene.flavortextText, Option.map_some, Scene.flavortextContents, List.append_assoc]
    exact key.gap "    " (by decide)

theorem spells_sceneLines {s : Scene} (writable : s.Writable) (spells : rest.Spells ks) :
    Spells (Module.sceneLines s ++ rest) ((s.reworded escaped).contents ++ ks) := by
  have line := spells.gap "\n" (by decide)
  have ended := line.keyword .sceneEnd (by decide) (ends_append "\n" (by decide))
  have select := spells_select writable.offers writable.branches ended
  have told := spells_flavortext writable.lines select
  have effects := spells_effects writable.effects told
  have named := effects.colon.word writable.name (ends_append ":\n" (by decide))
  simp only [Module.sceneLines, Scene.text, Scene.contents, List.append_assoc, List.cons_append]
  exact (named.gap " " (by decide)).keyword .sceneStart (by decide) (ends_append " " (by decide))

theorem spells_scenes {ss : List Scene} (writable : ∀ s ∈ ss, s.Writable)
    (spells : rest.Spells ks) :
    Spells (ss.flatMap Module.sceneLines ++ rest)
      ((ss.map (Scene.reworded escaped)).flatMap Scene.contents ++ ks) := by
  rw [List.flatMap_map]
  exact spells_flatMap (fun s member => spells_sceneLines (writable s member)) spells

/-- What is printed for a module is read as its tokens, with each string as it stands between
    quotes. -/
theorem spells_module {m : Module} (writable : m.Writable) :
    Spells m.text (m.reworded escaped).contents := by
  have last : Spells m.name [(.name, m.name)] := by
    simpa using Spells.nil.word writable.name ends_nil
  have ended :=
    (last.gap " " (by decide)).keyword .moduleEnd (by decide) (ends_append " " (by decide))
  have scenes := spells_scenes writable.scenes ended
  have named := scenes.colon.word writable.name (ends_append ":\n" (by decide))
  simp only [Module.text, List.append_assoc]
  exact (named.gap " " (by decide)).keyword .moduleStart (by decide) (ends_append " " (by decide))

end Text

/-! ## Tokens of a part are read as the part -/

namespace Grammar

variable {ts : List Token} {ks : List (Kind × Text)}

theorem exists_token {kind : Kind} {text : Text}
    (contents : ts.map Token.content = (kind, text) :: ks) :
    ∃ t us, ts = t :: us ∧ t.lexeme = text ∧ t.kind = kind ∧ us.map Token.content = ks := by
  obtain ⟨t, us, rfl, same, rest⟩ := List.map_eq_cons_iff.mp contents
  exact ⟨t, us, rfl, congrArg Prod.snd same, congrArg Prod.fst same, rest⟩

theorem isTarget_of_contents {x : Target} (writable : x.Writable)
    (contents : ts.map Token.content = x.contents) : IsTarget ts x := by
  match x with
  | .sameFile none scene =>
    obtain ⟨scene, _, rfl, rfl, isScene, contents⟩ := exists_token contents
    obtain rfl := List.map_eq_nil_iff.mp contents
    exact .sameModule (by simp [isScene])
  | .sameFile (some module) scene =>
    obtain ⟨module, _, rfl, rfl, isModule, contents⟩ := exists_token contents
    obtain ⟨scope, _, rfl, -, isScope, contents⟩ := exists_token contents
    obtain ⟨scene, _, rfl, rfl, isScene, contents⟩ := exists_token contents
    obtain rfl := List.map_eq_nil_iff.mp contents
    exact .sameFile (by simp [isModule, isScope, isScene])
  | .otherFile path module scene =>
    obtain ⟨file, _, rfl, -, isFile, contents⟩ := exists_token contents
    obtain ⟨left, _, rfl, -, isLeft, contents⟩ := exists_token contents
    obtain ⟨path, _, rfl, rfl, isPath, contents⟩ := exists_token contents
    obtain ⟨right, _, rfl, -, isRight, contents⟩ := exists_token contents
    obtain ⟨scope, _, rfl, -, isScope, contents⟩ := exists_token contents
    obtain ⟨module, _, rfl, rfl, isModule, contents⟩ := exists_token contents
    obtain ⟨scope', _, rfl, -, isScope', contents⟩ := exists_token contents
    obtain ⟨scene, _, rfl, rfl, isScene, contents⟩ := exists_token contents
    obtain rfl := List.map_eq_nil_iff.mp contents
    have kinds : [file, left, path, right, scope, module, scope', scene].map Token.kind =
        [.fileRef, .leftParen, .string, .rightParen, .scope, .name, .scope, .name] := by
      simp [isFile, isLeft, isPath, isRight, isScope, isModule, isScope', isScene]
    exact .otherFile kinds writable.2.1

theorem isCondition_of_contents {c : Condition} (contents : ts.map Token.content = c.contents) :
    IsCondition ts c := by
  cases c with
  | has item =>
    obtain ⟨has, _, rfl, -, isHas, contents⟩ := exists_token contents
    obtain ⟨item, _, rfl, rfl, isItem, contents⟩ := exists_token contents
    obtain rfl := List.map_eq_nil_iff.mp contents
    exact .has (by simp [isHas, isItem])
  | lacks item =>
    obtain ⟨has, _, rfl, -, isHas, contents⟩ := exists_token contents
    obtain ⟨no, _, rfl, -, isNo, contents⟩ := exists_token contents
    obtain ⟨item, _, rfl, rfl, isItem, contents⟩ := exists_token contents
    obtain rfl := List.map_eq_nil_iff.mp contents
    exact .lacks (by simp [isHas, isNo, isItem])

theorem isGuard_of_contents {cs : List Condition} (some : cs ≠ [])
    (contents : ts.map Token.content = Branch.guardContents cs) : IsGuard ts cs := by
  induction cs generalizing ts with
  | nil => exact absurd rfl some
  | cons c cs ih =>
    cases cs with
    | nil =>
      obtain ⟨us, vs, rfl, condition, contents⟩ := List.map_eq_append_iff.mp contents
      obtain ⟨mark, _, rfl, -, isMark, contents⟩ := exists_token contents
      obtain rfl := List.map_eq_nil_iff.mp contents
      exact .last (isCondition_of_contents condition) isMark
    | cons d cs =>
      obtain ⟨us, vs, rfl, condition, contents⟩ := List.map_eq_append_iff.mp contents
      obtain ⟨mark, vs, rfl, -, isMark, contents⟩ := exists_token contents
      exact .more (isCondition_of_contents condition) isMark (ih (List.cons_ne_nil d cs) contents)

/-- Only the position of a branch is not given by what its tokens contain. -/
theorem isBranch_of_contents {b : Branch} (writable : b.Writable)
    (contents : ts.map Token.content = b.contents) :
    ∃ b', IsBranch ts b' ∧ b'.unplaced = b.unplaced := by
  obtain ⟨label, cs, target, pos⟩ := b
  obtain ⟨us, vs, rfl, guard, contents⟩ := List.map_eq_append_iff.mp contents
  obtain ⟨label, vs, rfl, rfl, isLabel, contents⟩ := exists_token contents
  obtain ⟨arrow, vs, rfl, -, isArrow, contents⟩ := exists_token contents
  have leads := isTarget_of_contents writable.target contents
  have kinds : [label, arrow].map Token.kind = [.string, .arrow] := by simp [isLabel, isArrow]
  cases cs with
  | nil =>
    obtain rfl := List.map_eq_nil_iff.mp guard
    exact ⟨_, .free kinds leads, rfl⟩
  | cons c cs =>
    have is := isGuard_of_contents (List.cons_ne_nil c cs) guard
    obtain ⟨first, us, rfl⟩ := Reading.exists_cons_of_isGuard is
    exact ⟨_, .guarded is kinds leads, rfl⟩

theorem areBranches_of_contents {bs : List Branch} (some : bs ≠ [])
    (writable : ∀ b ∈ bs, b.Writable)
    (contents : ts.map Token.content = Scene.branchesContents bs) :
    ∃ bs', AreBranches ts bs' ∧ bs'.map Branch.unplaced = bs.map Branch.unplaced := by
  induction bs generalizing ts with
  | nil => exact absurd rfl some
  | cons b bs ih =>
    obtain ⟨first, others⟩ := List.forall_mem_cons.mp writable
    cases bs with
    | nil =>
      obtain ⟨b', is, same⟩ := isBranch_of_contents first contents
      exact ⟨[b'], .last is, by simp [same]⟩
    | cons c bs =>
      obtain ⟨us, vs, rfl, branch, contents⟩ := List.map_eq_append_iff.mp contents
      obtain ⟨mark, vs, rfl, -, isMark, contents⟩ := exists_token contents
      obtain ⟨b', is, same⟩ := isBranch_of_contents first branch
      obtain ⟨bs', are, sames⟩ := ih (List.cons_ne_nil c bs) others contents
      exact ⟨b' :: bs', .more is isMark are, List.cons_eq_cons.mpr ⟨same, sames⟩⟩

theorem areLines_of_contents {ls : List Text}
    (contents : ts.map Token.content = ls.map fun line => (.string, line)) : AreLines ts ls := by
  induction ls generalizing ts with
  | nil =>
    obtain rfl := List.map_eq_nil_iff.mp contents
    exact .none
  | cons l ls ih =>
    obtain ⟨line, us, rfl, rfl, isLine, contents⟩ := exists_token contents
    exact .line isLine (ih contents)

theorem isPart_of_effect {e : Effect} (contents : ts.map Token.content = e.contents) :
    ∃ e', IsPart ts (.effect e') ∧ e'.unplaced = e.unplaced := by
  cases e with
  | get item pos =>
    obtain ⟨key, _, rfl, -, isKey, contents⟩ := exists_token contents
    obtain ⟨item, _, rfl, rfl, isItem, contents⟩ := exists_token contents
    obtain ⟨mark, _, rfl, -, isMark, contents⟩ := exists_token contents
    obtain rfl := List.map_eq_nil_iff.mp contents
    exact ⟨_, .get (by simp [isKey, isItem, isMark]), rfl⟩
  | lose item pos =>
    obtain ⟨key, _, rfl, -, isKey, contents⟩ := exists_token contents
    obtain ⟨item, _, rfl, rfl, isItem, contents⟩ := exists_token contents
    obtain ⟨mark, _, rfl, -, isMark, contents⟩ := exists_token contents
    obtain rfl := List.map_eq_nil_iff.mp contents
    exact ⟨_, .lose (by simp [isKey, isItem, isMark]), rfl⟩

theorem Each.append {α : Type} {Is : List Token → α → Prop} {us : List Token} {as bs : List α}
    (first : Each Is ts as) (second : Each Is us bs) : Each Is (ts ++ us) (as ++ bs) := by
  induction first with
  | nil => exact second
  | cons is each ih =>
    rw [List.append_assoc]
    exact .cons is ih

theorem Each.single {α : Type} {Is : List Token → α → Prop} {a : α} (is : Is ts a) :
    Each Is ts [a] := by
  simpa using Each.cons is .nil

theorem effects_of_contents {es : List Effect}
    (contents : ts.map Token.content = es.flatMap Effect.contents) :
    ∃ es' : List Effect, Each IsPart ts (es'.map .effect) ∧
      es'.map Effect.unplaced = es.map Effect.unplaced := by
  induction es generalizing ts with
  | nil =>
    obtain rfl := List.map_eq_nil_iff.mp contents
    exact ⟨[], .nil, rfl⟩
  | cons e es ih =>
    obtain ⟨us, vs, rfl, first, others⟩ := List.map_eq_append_iff.mp contents
    obtain ⟨e', is, same⟩ := isPart_of_effect first
    obtain ⟨es', each, sames⟩ := ih others
    exact ⟨e' :: es', .cons is each, List.cons_eq_cons.mpr ⟨same, sames⟩⟩

/-- Tokens with the contents of a block: a keyword, something in braces and a semicolon. -/
theorem exists_block {opening : Kind} (contents : ts.map Token.content =
      opening.content :: Kind.leftBrace.content :: ks ++
        [Kind.rightBrace.content, Kind.semicolon.content]) :
    ∃ key left us right mark, ts = key :: left :: us ++ [right, mark] ∧ us.map Token.content = ks ∧
      [key, left].map Token.kind = [opening, .leftBrace] ∧
      [right, mark].map Token.kind = [.rightBrace, .semicolon] := by
  obtain ⟨key, us, rfl, -, isKey, contents⟩ := exists_token contents
  obtain ⟨left, us, rfl, -, isLeft, contents⟩ := exists_token contents
  obtain ⟨us, vs, rfl, inside, contents⟩ := List.map_eq_append_iff.mp contents
  obtain ⟨right, vs, rfl, -, isRight, contents⟩ := exists_token contents
  obtain ⟨mark, vs, rfl, -, isMark, contents⟩ := exists_token contents
  obtain rfl := List.map_eq_nil_iff.mp contents
  exact ⟨key, left, us, right, mark, rfl, inside, by simp [isKey, isLeft], by simp [isRight, isMark]⟩

theorem flavortext_of_contents {told : Option (List Text)}
    (contents : ts.map Token.content = Scene.flavortextContents told) :
    Each IsPart ts (told.toList.map .told) := by
  cases told with
  | none =>
    obtain rfl := List.map_eq_nil_iff.mp contents
    exact .nil
  | some lines =>
    obtain ⟨key, left, us, right, mark, rfl, inside, opening, closing⟩ := exists_block contents
    exact .single (.told opening (areLines_of_contents inside) closing)

theorem select_of_contents {bs : List Branch} (some : bs ≠ []) (writable : ∀ b ∈ bs, b.Writable)
    (contents : ts.map Token.content = Scene.selectContents bs) :
    ∃ pos bs', IsPart ts (.select pos bs') ∧ bs'.map Branch.unplaced = bs.map Branch.unplaced := by
  obtain ⟨key, left, us, right, mark, rfl, inside, opening, closing⟩ := exists_block contents
  obtain ⟨bs', are, same⟩ := areBranches_of_contents some writable inside
  exact ⟨key.pos, bs', .select opening are closing, same⟩

/-- A scene with effects first, then lines if there are any, and branches at the end. -/
theorem scene_of_parts (name : Text) (pos at_ : Pos) (es : List Effect) (told : Option (List Text))
    (bs : List Branch) :
    let tree : SceneTree :=
      ⟨name, pos, es.map .effect ++ (told.toList.map .told ++ [.select at_ bs])⟩
    tree.Proper ∧ tree.scene = ⟨name, pos, told, es, bs⟩ := by
  have effects : (es.map Part.effect).filterMap Part.effect? = es := by
    simp [Function.comp_def]
  have lines : (es.map Part.effect).filterMap Part.lines? = [] := by
    simp [Function.comp_def]
  have branches : (es.map Part.effect).filterMap Part.branches? = [] := by
    simp [Function.comp_def]
  cases told with
  | none =>
    simp [SceneTree.Proper, SceneTree.scene, effects, lines, branches, List.filterMap_cons]
  | some told =>
    simp [SceneTree.Proper, SceneTree.scene, effects, lines, branches, List.filterMap_cons]

theorem isScene_of_contents {s : Scene} (writable : s.Writable)
    (contents : ts.map Token.content = s.contents) :
    ∃ tree, IsScene ts tree ∧ tree.Proper ∧ tree.scene.unplaced = s.unplaced := by
  obtain ⟨name, pos, told, es, bs⟩ := s
  obtain ⟨key, us, rfl, -, isKey, contents⟩ := exists_token contents
  obtain ⟨name, us, rfl, rfl, isName, contents⟩ := exists_token contents
  obtain ⟨colon, us, rfl, -, isColon, contents⟩ := exists_token contents
  obtain ⟨us, vs, rfl, inside, contents⟩ := List.map_eq_append_iff.mp contents
  obtain ⟨final, vs, rfl, -, isFinal, contents⟩ := exists_token contents
  obtain rfl := List.map_eq_nil_iff.mp contents
  obtain ⟨us₁, us, rfl, effects, inside⟩ := List.map_eq_append_iff.mp inside
  obtain ⟨us₂, us₃, rfl, lines, select⟩ := List.map_eq_append_iff.mp inside
  obtain ⟨es', each, sameEffects⟩ := effects_of_contents effects
  obtain ⟨at_, bs', is, sameBranches⟩ := select_of_contents writable.offers writable.branches select
  have body := each.append ((flavortext_of_contents lines).append (.single is))
  obtain ⟨proper, scene⟩ := scene_of_parts name.lexeme key.pos at_ es' told bs'
  refine ⟨_, .scene (by simp [isKey, isName, isColon]) body (by simp [isFinal]), proper, ?_⟩
  rw [scene]
  simp [Scene.unplaced, sameEffects, sameBranches]

theorem scenes_of_contents {ss : List Scene} (writable : ∀ s ∈ ss, s.Writable)
    (contents : ts.map Token.content = ss.flatMap Scene.contents) :
    ∃ trees, Each IsScene ts trees ∧ (∀ t ∈ trees, t.Proper) ∧
      (trees.map SceneTree.scene).map Scene.unplaced = ss.map Scene.unplaced := by
  induction ss generalizing ts with
  | nil =>
    obtain rfl := List.map_eq_nil_iff.mp contents
    exact ⟨[], .nil, by simp, rfl⟩
  | cons s ss ih =>
    obtain ⟨first, others⟩ := List.forall_mem_cons.mp writable
    obtain ⟨us, vs, rfl, here, later⟩ := List.map_eq_append_iff.mp contents
    obtain ⟨tree, is, proper, same⟩ := isScene_of_contents first here
    obtain ⟨trees, each, propers, sames⟩ := ih others later
    exact ⟨tree :: trees, .cons is each, List.forall_mem_cons.mpr ⟨proper, propers⟩,
      List.cons_eq_cons.mpr ⟨same, sames⟩⟩

/-- Tokens with the contents of a writable module are read as that module, without findings. -/
theorem modules_of_contents {m : Module} (writable : m.Writable)
    (contents : ts.map Token.content = m.contents) (last : Token) (file : Text) :
    ∃ m', Reading.modules last file [] ts = ([m'], []) ∧ m'.unplaced = m.unplaced := by
  obtain ⟨name, pos, source, ss⟩ := m
  obtain ⟨key, us, rfl, -, isKey, contents⟩ := exists_token contents
  obtain ⟨name, us, rfl, rfl, isName, contents⟩ := exists_token contents
  obtain ⟨colon, us, rfl, -, isColon, contents⟩ := exists_token contents
  obtain ⟨us, vs, rfl, inside, contents⟩ := List.map_eq_append_iff.mp contents
  obtain ⟨final, vs, rfl, -, isFinal, contents⟩ := exists_token contents
  obtain ⟨again, vs, rfl, sameName, isAgain, contents⟩ := exists_token contents
  obtain rfl := List.map_eq_nil_iff.mp contents
  obtain ⟨trees, each, propers, same⟩ := scenes_of_contents writable.scenes inside
  have names : ((trees.map SceneTree.scene).map Scene.name).Nodup := by
    have := congrArg (List.map Scene.name) same
    simp only [List.map_map, Function.comp_def, Scene.unplaced] at this ⊢
    rw [this]
    exact writable.distinct
  have closed : Reading.closeModule name.lexeme key.pos [again] = ([], []) := by
    simp [Reading.closeModule, isAgain, sameName, Reading.skip]
  have read : Reading.scenes last name.lexeme key.pos [] (us ++ [final, again]) =
      (trees.map SceneTree.scene, [], []) := by
    rw [Reading.scenes_eq each propers names isFinal, closed]
    rfl
  have whole : Reading.module last file key (name :: colon :: (us ++ [final, again])) =
      (some ⟨name.lexeme, key.pos, file, trees.map SceneTree.scene⟩, [], []) := by
    simp [Reading.module, Reading.expect_cons isName, Reading.colon, Reading.expect_cons isColon,
      read]
  refine ⟨⟨name.lexeme, key.pos, file, trees.map SceneTree.scene⟩, ?_, ?_⟩
  · rw [Reading.modules_cons isKey whole rfl, Reading.modules]
    rfl
  · simp only [Module.unplaced, same]

end Grammar

/-- For every module of a source that is read without errors: what is printed for it is read without
    any diagnostics, as one module with its name, and that module is the same up to positions and
    the file exactly if the strings of the module consist of printable characters other than the
    backslash. -/
theorem printed_module_reads_back (s : Source)
    (clean : Diagnostic.hasErrors (Script.parse s).2 = false) (m : Module)
    (member : m ∈ (Script.parse s).1.modules) (file : Text) :
    ∃ m', Script.parse (.ofText file m.text) = (⟨file, [m']⟩, []) ∧ m'.name = m.name ∧
      (m'.unplaced = m.unplaced ↔ ∀ t ∈ m.strings, ∀ r ∈ Rune.decode t, r.isPlain) := by
  have writable := Script.writable_of_parse clean m member
  obtain ⟨scanned, contents⟩ : (Source.ofText file m.text).tokens.failure = none ∧
      (Source.ofText file m.text).tokens.list.map Token.content =
        (m.reworded Text.escaped).contents :=
    Source.tokens_of_scans (Text.spells_module writable) rfl rfl rfl
  obtain ⟨m', read, same⟩ := modules_of_contents writable.escaped contents
    (Source.ofText file m.text).tokens.last file
  have name : m'.unplaced.name = (m.reworded Text.escaped).unplaced.name := by rw [same]
  refine ⟨m', ?_, name, ?_⟩
  · simp only [Script.parse, Script.ofTokens, Reading.diagnostics, scanned]
    rw [show (Source.ofText file m.text).file = file from rfl, read]
    rfl
  · rw [same, Module.unplaced_reworded_iff]
    exact forall₂_congr fun t inside => Text.escaped_eq_iff (writable.strings t inside)

/-- Of two modules one is read back unchanged. In the other a path has a backslash, which is read
    back as two. -/
theorem printed_module_reads_back_two :
    let s := Source.ofText "f" (
      ("@module p: @scene s: get \"key\"; flavortext \x7b \x7d; select" : Text) ++
      ("\x7b has no \"é\" ? \"go\" => q::s \x7d; @end-module n;" : Text) ++
      ("@module q: @scene s: select \x7b \"on\" => @file(\"a\\b\")::n::t, \x7d;" : Text) ++
      ("@end-module" : Text))
    Diagnostic.hasErrors (Script.parse s).2 = false ∧
      (Script.parse s).1.modules.map Module.name = ["p", "q"] ∧
      ∀ m ∈ (Script.parse s).1.modules, ∃ m',
        Script.parse (.ofText "g" m.text) = (⟨"g", [m']⟩, []) ∧ m'.name = m.name ∧
          (m'.unplaced = m.unplaced ↔ m.name = "p") := by
  intro s
  obtain ⟨clean, names, plain⟩ : Diagnostic.hasErrors (Script.parse s).2 = false ∧
      (Script.parse s).1.modules.map Module.name = ["p", "q"] ∧
      ∀ m ∈ (Script.parse s).1.modules,
        (∀ t ∈ m.strings, ∀ r ∈ Rune.decode t, r.isPlain) ↔ m.name = "p" := by decide +kernel
  refine ⟨clean, names, fun m member => ?_⟩
  obtain ⟨m', read, name, same⟩ := printed_module_reads_back s clean m member "g"
  exact ⟨m', read, name, same.trans (plain m member)⟩

end Gamebook
