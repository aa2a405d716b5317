import Gamebook.Proofs.Script.Acceptance
import Gamebook.Proofs.Source.Written

/-! # Modules that can be written

A module is writable if its names and strings can stand in a source and every scene offers branches.
Every module that is read without errors is writable, and it stays so if its strings are replaced by
what stands for them between quotes. That changes nothing but positions exactly if each string
stands for itself.
-/

namespace Gamebook

open Grammar

/-! ## Strings and positions -/

namespace Effect

def strings (e : Effect) : List Text :=
  [e.item]

/-- An effect with its string replaced. -/
def reworded (f : Text → Text) : Effect → Effect
  | .get item pos => .get (f item) pos
  | .lose item pos => .lose (f item) pos

/-- An effect wherever it stands. -/
def unplaced : Effect → Effect
  | .get item _ => .get item .start
  | .lose item _ => .lose item .start

def Writable (e : Effect) : Prop :=
  e.item.IsString

end Effect

namespace Condition

def strings : Condition → List Text
  | .has item => [item]
  | .lacks item => [item]

def reworded (f : Text → Text) : Condition → Condition
  | .has item => .has (f item)
  | .lacks item => .lacks (f item)

def Writable (c : Condition) : Prop :=
  ∀ t ∈ c.strings, t.IsString

end Condition

namespace Target

def strings : Target → List Text
  | .sameFile _ _ => []
  | .otherFile path _ _ => [path]

def reworded (f : Text → Text) : Target → Target
  | .sameFile module scene => .sameFile module scene
  | .otherFile path module scene => .otherFile (f path) module scene

/-- The path to another file is not blank. -/
def Writable : Target → Prop
  | .sameFile module scene => (∀ m ∈ module, m.IsName) ∧ scene.IsName
  | .otherFile path module scene =>
    path.IsString ∧ path.trim ≠ [] ∧ module.IsName ∧ scene.IsName

end Target

namespace Branch

def strings (b : Branch) : List Text :=
  b.guard.flatMap Condition.strings ++ b.label :: b.target.strings

def reworded (f : Text → Text) (b : Branch) : Branch :=
  ⟨f b.label, b.guard.map (Condition.reworded f), b.target.reworded f, b.pos⟩

def unplaced (b : Branch) : Branch :=
  { b with pos := .start }

structure Writable (b : Branch) : Prop where
  label : b.label.IsString
  guard : ∀ c ∈ b.guard, c.Writable
  target : b.target.Writable

end Branch

namespace Scene

def strings (s : Scene) : List Text :=
  s.effects.flatMap Effect.strings ++ s.flavortext.getD [] ++ s.branches.flatMap Branch.strings

def reworded (f : Text → Text) (s : Scene) : Scene where
  name := s.name
  pos := s.pos
  flavortext := s.flavortext.map (List.map f)
  effects := s.effects.map (Effect.reworded f)
  branches := s.branches.map (Branch.reworded f)

def unplaced (s : Scene) : Scene where
  name := s.name
  pos := .start
  flavortext := s.flavortext
  effects := s.effects.map Effect.unplaced
  branches := s.branches.map Branch.unplaced

structure Writable (s : Scene) : Prop where
  name : s.name.IsName
  effects : ∀ e ∈ s.effects, e.Writable
  lines : ∀ lines ∈ s.flavortext, ∀ line ∈ lines, line.IsString
  branches : ∀ b ∈ s.branches, b.Writable
  offers : s.branches ≠ []

end Scene

namespace Module

/-- The strings that stand in a module: items, lines that are told, labels and paths. -/
def strings (m : Module) : List Text :=
  m.scenes.flatMap Scene.strings

/-- A module with its strings replaced. -/
def reworded (f : Text → Text) (m : Module) : Module :=
  { m with scenes := m.scenes.map (Scene.reworded f) }

/-- A module wherever and in whatever file it stands. -/
def unplaced (m : Module) : Module where
  name := m.name
  pos := .start
  source := []
  scenes := m.scenes.map Scene.unplaced

structure Writable (m : Module) : Prop where
  name : m.name.IsName
  scenes : ∀ s ∈ m.scenes, s.Writable
  distinct : (m.scenes.map Scene.name).Nodup

end Module

/-! The strings of what is writable can stand between quotes. -/

theorem Target.Writable.strings {x : Target} (writable : x.Writable) :
    ∀ t ∈ x.strings, t.IsString := by
  cases x with
  | sameFile module scene => simp [Target.strings]
  | otherFile path module scene => simpa [Target.strings] using writable.1

theorem Branch.Writable.strings {b : Branch} (writable : b.Writable) :
    ∀ t ∈ b.strings, t.IsString := by
  rw [Branch.strings, List.forall_mem_append, List.forall_mem_cons]
  refine ⟨fun t inside => ?_, writable.label, writable.target.strings⟩
  obtain ⟨c, member, here⟩ := List.mem_flatMap.mp inside
  exact writable.guard c member t here

theorem Scene.Writable.strings {s : Scene} (writable : s.Writable) :
    ∀ t ∈ s.strings, t.IsString := by
  rw [Scene.strings, List.forall_mem_append, List.forall_mem_append]
  refine ⟨⟨fun t inside => ?_, ?_⟩, fun t inside => ?_⟩
  · obtain ⟨e, member, here⟩ := List.mem_flatMap.mp inside
    obtain rfl := List.mem_singleton.mp here
    exact writable.effects e member
  · have lines := writable.lines
    cases told : s.flavortext with
    | none => simp
    | some ls => exact lines ls told
  · obtain ⟨b, member, here⟩ := List.mem_flatMap.mp inside
    exact (writable.branches b member).strings t here

theorem Module.Writable.strings {m : Module} (writable : m.Writable) :
    ∀ t ∈ m.strings, t.IsString := by
  intro t inside
  obtain ⟨s, member, here⟩ := List.mem_flatMap.mp inside
  exact (writable.scenes s member).strings t here

/-! ## Replaced strings -/

section Reworded

variable {f : Text → Text}

theorem Effect.unplaced_reworded_iff (e : Effect) :
    (e.reworded f).unplaced = e.unplaced ↔ ∀ t ∈ e.strings, f t = t := by
  cases e <;> simp [reworded, unplaced, strings, item]

theorem Condition.reworded_eq_iff (c : Condition) :
    c.reworded f = c ↔ ∀ t ∈ c.strings, f t = t := by
  cases c <;> simp [reworded, strings]

theorem Target.reworded_eq_iff (x : Target) : x.reworded f = x ↔ ∀ t ∈ x.strings, f t = t := by
  cases x <;> simp [reworded, strings]

/-- Parts that are changed one by one are all the same exactly if each is. -/
theorem map_map_eq_iff {α β : Type} (see : α → β) {change : α → α} {strings : α → List Text}
    (each : ∀ a, see (change a) = see a ↔ ∀ t ∈ strings a, f t = t) (as : List α) :
    (as.map change).map see = as.map see ↔ ∀ t ∈ as.flatMap strings, f t = t := by
  rw [List.map_map, List.map_inj_left]
  simp only [Function.comp_apply, each, List.mem_flatMap]
  exact ⟨fun all t ⟨a, member, inside⟩ => all a member t inside,
    fun all a member t inside => all t ⟨a, member, inside⟩⟩

theorem Branch.unplaced_reworded_iff (b : Branch) :
    (b.reworded f).unplaced = b.unplaced ↔ ∀ t ∈ b.strings, f t = t := by
  have guard : b.guard.map (Condition.reworded f) = b.guard ↔
      ∀ t ∈ b.guard.flatMap Condition.strings, f t = t := by
    have each (c : Condition) : id (c.reworded f) = id c ↔ ∀ t ∈ c.strings, f t = t :=
      c.reworded_eq_iff
    simpa using map_map_eq_iff id each b.guard
  simp only [unplaced, reworded, Branch.mk.injEq, and_true, Target.reworded_eq_iff, strings,
    List.forall_mem_append, List.forall_mem_cons]
  rw [guard]
  tauto

theorem Scene.unplaced_reworded_iff (s : Scene) :
    (s.reworded f).unplaced = s.unplaced ↔ ∀ t ∈ s.strings, f t = t := by
  have lines : s.flavortext.map (List.map f) = s.flavortext ↔
      ∀ t ∈ s.flavortext.getD [], f t = t := by
    cases s.flavortext with
    | none => simp
    | some lines =>
      have same := List.map_inj_left (f := f) (g := id) (l := lines)
      simpa using same
  simp only [unplaced, reworded, Scene.mk.injEq, true_and, lines,
    map_map_eq_iff Effect.unplaced Effect.unplaced_reworded_iff,
    map_map_eq_iff Branch.unplaced Branch.unplaced_reworded_iff,
    strings, List.forall_mem_append]
  tauto

theorem Module.unplaced_reworded_iff (m : Module) :
    (m.reworded f).unplaced = m.unplaced ↔ ∀ t ∈ m.strings, f t = t := by
  simp only [unplaced, reworded, Module.mk.injEq, true_and,
    map_map_eq_iff Scene.unplaced Scene.unplaced_reworded_iff, strings]

end Reworded

/-! Strings that are replaced by what stands for them between quotes can be written as well. -/

theorem Effect.Writable.escaped {e : Effect} (writable : e.Writable) :
    (e.reworded Text.escaped).Writable := by
  cases e with
  | get item pos => exact Text.isString_escaped writable
  | lose item pos => exact Text.isString_escaped writable

theorem Condition.Writable.escaped {c : Condition} (writable : c.Writable) :
    (c.reworded Text.escaped).Writable := by
  cases c with
  | has item | lacks item =>
    have string : item.escaped.IsString := Text.isString_escaped (writable item List.mem_cons_self)
    simpa [Writable, strings, reworded] using string

theorem Target.Writable.escaped {x : Target} (writable : x.Writable) :
    (x.reworded Text.escaped).Writable := by
  cases x with
  | sameFile module scene => exact writable
  | otherFile path module scene =>
    obtain ⟨string, shown, names⟩ := writable
    exact ⟨Text.isString_escaped string, Text.trim_escaped string shown, names⟩

theorem Branch.Writable.escaped {b : Branch} (writable : b.Writable) :
    (b.reworded Text.escaped).Writable where
  label := Text.isString_escaped writable.label
  guard := List.forall_mem_map.mpr fun c member => (writable.guard c member).escaped
  target := writable.target.escaped

theorem Scene.Writable.escaped {s : Scene} (writable : s.Writable) :
    (s.reworded Text.escaped).Writable where
  name := writable.name
  effects := List.forall_mem_map.mpr fun e member => (writable.effects e member).escaped
  lines := by
    intro told member
    obtain ⟨lines, told, rfl⟩ := Option.map_eq_some_iff.mp member
    exact List.forall_mem_map.mpr fun line inside =>
      Text.isString_escaped (writable.lines lines told line inside)
  branches := List.forall_mem_map.mpr fun b member => (writable.branches b member).escaped
  offers := by simpa [reworded] using writable.offers

theorem Module.Writable.escaped {m : Module} (writable : m.Writable) :
    (m.reworded Text.escaped).Writable where
  name := writable.name
  scenes := List.forall_mem_map.mpr fun s member => (writable.scenes s member).escaped
  distinct := by simpa [reworded, Scene.reworded, Function.comp_def] using writable.distinct

/-! ## What is read is writable -/

/-- That a token was read from somewhere. -/
def Token.IsSpelled (t : Token) : Prop :=
  ∃ span following, Spelled span following t.kind t.lexeme

theorem Token.IsSpelled.isName {t : Token} (spelled : t.IsSpelled) (kind : t.kind = .name) :
    t.lexeme.IsName := by
  obtain ⟨_, _, spelled⟩ := spelled
  exact spelled.isName kind

theorem Token.IsSpelled.isString {t : Token} (spelled : t.IsSpelled) (kind : t.kind = .string) :
    t.lexeme.IsString := by
  obtain ⟨_, _, spelled⟩ := spelled
  exact spelled.isString kind

namespace Grammar

variable {us : List Token}

theorem IsTarget.writable {x : Target} (is : IsTarget us x) (spelled : ∀ t ∈ us, t.IsSpelled) :
    x.Writable := by
  cases is with
  | sameModule kinds =>
    simp only [List.map_cons, List.map_nil, List.cons.injEq, and_true] at kinds
    exact ⟨by simp, (spelled _ List.mem_cons_self).isName kinds⟩
  | sameFile kinds =>
    simp only [List.map_cons, List.map_nil, List.cons.injEq, and_true] at kinds
    simp only [List.forall_mem_cons] at spelled
    obtain ⟨module, -, scene, -⟩ := spelled
    obtain ⟨isModule, -, isScene⟩ := kinds
    refine ⟨?_, scene.isName isScene⟩
    rintro _ ⟨⟩
    exact module.isName isModule
  | otherFile kinds somewhere =>
    simp only [List.map_cons, List.map_nil, List.cons.injEq, and_true] at kinds
    simp only [List.forall_mem_cons] at spelled
    obtain ⟨-, -, path, -, -, module, -, scene, -⟩ := spelled
    obtain ⟨-, -, isPath, -, -, isModule, -, isScene⟩ := kinds
    exact ⟨path.isString isPath, somewhere, module.isName isModule, scene.isName isScene⟩

theorem IsCondition.writable {c : Condition} (is : IsCondition us c)
    (spelled : ∀ t ∈ us, t.IsSpelled) : c.Writable := by
  have single {item : Token} (isItem : item.kind = .string) (read : item.IsSpelled) :
      ∀ t ∈ [item.lexeme], t.IsString := by
    simpa using read.isString isItem
  cases is with
  | has kinds =>
    simp only [List.map_cons, List.map_nil, List.cons.injEq, and_true] at kinds
    exact single kinds.2 (spelled _ (by simp))
  | lacks kinds =>
    simp only [List.map_cons, List.map_nil, List.cons.injEq, and_true] at kinds
    exact single kinds.2.2 (spelled _ (by simp))

theorem IsGuard.writable {cs : List Condition} (is : IsGuard us cs)
    (spelled : ∀ t ∈ us, t.IsSpelled) : ∀ c ∈ cs, c.Writable := by
  induction is with
  | last condition question =>
    have first := condition.writable (List.forall_mem_append.mp spelled).1
    simpa using first
  | more condition comma rest ih =>
    obtain ⟨first, later⟩ := List.forall_mem_append.mp spelled
    exact List.forall_mem_cons.mpr
      ⟨condition.writable first, ih (List.forall_mem_cons.mp later).2⟩

theorem IsBranch.writable {b : Branch} (is : IsBranch us b) (spelled : ∀ t ∈ us, t.IsSpelled) :
    b.Writable := by
  cases is with
  | free kinds leads =>
    simp only [List.map_cons, List.map_nil, List.cons.injEq, and_true] at kinds
    simp only [List.forall_mem_cons] at spelled
    exact ⟨spelled.1.isString kinds.1, by simp, leads.writable spelled.2.2⟩
  | guarded guard kinds leads =>
    simp only [List.map_cons, List.map_nil, List.cons.injEq, and_true] at kinds
    obtain ⟨first, later⟩ := List.forall_mem_append.mp spelled
    simp only [List.forall_mem_cons] at later
    exact ⟨later.1.isString kinds.1, guard.writable first, leads.writable later.2.2⟩

theorem AreBranches.writable {bs : List Branch} (are : AreBranches us bs)
    (spelled : ∀ t ∈ us, t.IsSpelled) : ∀ b ∈ bs, b.Writable := by
  induction are with
  | last branch => simpa using branch.writable spelled
  | lastComma branch comma =>
    simpa using branch.writable (List.forall_mem_append.mp spelled).1
  | more branch comma rest ih =>
    obtain ⟨first, later⟩ := List.forall_mem_append.mp spelled
    exact List.forall_mem_cons.mpr ⟨branch.writable first, ih (List.forall_mem_cons.mp later).2⟩

theorem AreLines.writable {ls : List Text} (are : AreLines us ls)
    (spelled : ∀ t ∈ us, t.IsSpelled) : ∀ l ∈ ls, l.IsString := by
  induction are with
  | none => simp
  | line string rest ih =>
    obtain ⟨first, later⟩ := List.forall_mem_cons.mp spelled
    exact List.forall_mem_cons.mpr ⟨first.isString string, ih later⟩
  | lineComma string comma rest ih =>
    obtain ⟨first, later⟩ := List.forall_mem_cons.mp spelled
    exact List.forall_mem_cons.mpr ⟨first.isString string, ih (List.forall_mem_cons.mp later).2⟩

/-- That the strings and names of a part of a scene can be written. -/
def Part.Writable : Part → Prop
  | .effect e => e.Writable
  | .told lines => ∀ line ∈ lines, line.IsString
  | .select _ branches => (∀ b ∈ branches, b.Writable) ∧ branches ≠ []

theorem IsPart.writable {part : Part} (is : IsPart us part) (spelled : ∀ t ∈ us, t.IsSpelled) :
    part.Writable := by
  cases is with
  | get kinds | lose kinds =>
    simp only [List.map_cons, List.map_nil, List.cons.injEq, and_true] at kinds
    simp only [List.forall_mem_cons] at spelled
    exact spelled.2.1.isString kinds.2.1
  | told opening lines closing =>
    have inside := (List.forall_mem_append.mp spelled).1
    simp only [List.forall_mem_cons] at inside
    exact lines.writable inside.2.2
  | select opening branches closing =>
    have inside := (List.forall_mem_append.mp spelled).1
    simp only [List.forall_mem_cons] at inside
    exact ⟨branches.writable inside.2.2, Reading.ne_nil_of_areBranches branches⟩

/-- What holds of each part holds of all of them. -/
theorem Each.forall_mem {α : Type} {Is : List Token → α → Prop} {P : α → Prop} {as : List α}
    (each : Each Is us as) (spelled : ∀ t ∈ us, t.IsSpelled)
    (one : ∀ {ts a}, Is ts a → (∀ t ∈ ts, t.IsSpelled) → P a) : ∀ a ∈ as, P a := by
  induction each with
  | nil => simp
  | cons is each ih =>
    obtain ⟨first, later⟩ := List.forall_mem_append.mp spelled
    exact List.forall_mem_cons.mpr ⟨one is first, ih later⟩

theorem IsScene.writable {tree : SceneTree} (is : IsScene us tree) (spelled : ∀ t ∈ us, t.IsSpelled)
    (proper : tree.Proper) : tree.scene.Writable := by
  cases is with
  | @scene key name colon ts closing parts opening inside ending =>
    simp only [List.map_cons, List.map_nil, List.cons.injEq, and_true] at opening
    have front := (List.forall_mem_append.mp spelled).1
    simp only [List.forall_mem_cons] at front
    obtain ⟨-, named, -, body⟩ := front
    have all := inside.forall_mem body IsPart.writable
    have selected {bs : List Branch} (member : bs ∈ parts.filterMap Part.branches?) :
        (∀ b ∈ bs, b.Writable) ∧ bs ≠ [] := by
      obtain ⟨part, here, same⟩ := List.mem_filterMap.mp member
      cases part with
      | select pos branches =>
        cases same
        exact all _ here
      | effect | told => cases same
    refine ⟨named.isName opening.2.1, ?_, ?_, ?_, ?_⟩
    · intro e member
      obtain ⟨part, here, same⟩ := List.mem_filterMap.mp member
      cases part with
      | effect e =>
        cases same
        exact all _ here
      | told | select => cases same
    · intro lines first
      obtain ⟨part, here, same⟩ := List.mem_filterMap.mp (List.mem_of_mem_head? first)
      cases part with
      | told lines =>
        cases same
        exact all _ here
      | effect | select => cases same
    · intro b member
      obtain ⟨bs, offered, inside⟩ := List.mem_flatten.mp member
      exact (selected offered).1 b inside
    · obtain ⟨bs, only⟩ := List.length_eq_one_iff.mp proper.1
      have some : bs ≠ [] := (selected (by rw [only]; exact List.mem_cons_self)).2
      simpa [SceneTree.scene, only] using some

theorem IsModule.writable {tree : ModuleTree} (is : IsModule us tree)
    (spelled : ∀ t ∈ us, t.IsSpelled) (proper : tree.Proper) (file : Text) :
    (tree.module file).Writable := by
  cases is with
  | @module key name colon last ts closing scenes opening inside isEnd ending =>
    simp only [List.map_cons, List.map_nil, List.cons.injEq, and_true] at opening
    have front := (List.forall_mem_append.mp spelled).1
    simp only [List.forall_mem_cons] at front
    obtain ⟨-, named, -, body⟩ := front
    have all := inside.forall_mem body IsScene.writable
    refine ⟨named.isName opening.2.1, ?_, ?_⟩
    · exact List.forall_mem_map.mpr fun tree member => all tree member (proper.1 tree member)
    · rw [ModuleTree.module, Reading.names_scene]
      exact proper.2

end Grammar

/-- A source is read without errors only if its tokens can be read. -/
theorem Script.scanned_of_ofTokens {file : Text} {ts : Source.Tokens}
    (clean : Diagnostic.hasErrors (Script.ofTokens file ts).2 = false) : ts.failure = none := by
  cases failed : ts.failure with
  | none => rfl
  | some failure =>
    have severe : (Reading.failureDiagnostic file ts.last failure).severity = .error := by
      unfold Reading.failureDiagnostic
      split <;> rfl
    simp [Script.ofTokens, Reading.diagnostics, failed, Diagnostic.hasErrors, severe] at clean

theorem Script.scanned_of_parse {s : Source}
    (clean : Diagnostic.hasErrors (Script.parse s).2 = false) : s.tokens.failure = none :=
  Script.scanned_of_ofTokens clean

/-- Every module of a source that is read without errors can be written. -/
theorem Script.writable_of_parse {s : Source}
    (clean : Diagnostic.hasErrors (Script.parse s).2 = false) :
    ∀ m ∈ (Script.parse s).1.modules, m.Writable := by
  rw [Script.hasErrors_parse (Script.scanned_of_parse clean)] at clean
  obtain ⟨trees, each, propers, found, -⟩ := Reading.modules_sound clean List.nodup_nil
  have all := each.forall_mem (fun t => Source.spelled_of_mem_tokens) IsModule.writable
  intro m member
  rw [Script.parse, Script.ofTokens] at member
  simp only [found, List.nil_append, List.mem_map] at member
  obtain ⟨tree, inside, rfl⟩ := member
  exact all tree inside (propers tree inside) s.file

end Gamebook
