import Gamebook.Script.Parse

/-! # The grammar of scripts

Which tokens make up which part of a script, said without any reader. Each relation holds between
the tokens of a part and the tree of that part. What a scene consists of may come in any order and
number here; `SceneTree.Proper` and `ModuleTree.Proper` say how often each part may stand in a scene
and that names are not used twice, and `SceneTree.scene` and `ModuleTree.module` say which scene and
which module a tree stands for.
-/

namespace Gamebook.Grammar

/-- A name, a name in a module, or a name in a module of a file. The path of a file is not blank. -/
inductive IsTarget : List Token → Target → Prop where
  | sameModule {scene : Token} (kinds : [scene].map Token.kind = [.name]) :
    IsTarget [scene] (.sameFile none scene.lexeme)
  | sameFile {module scope scene : Token}
      (kinds : [module, scope, scene].map Token.kind = [.name, .scope, .name]) :
    IsTarget [module, scope, scene] (.sameFile (some module.lexeme) scene.lexeme)
  | otherFile {file left path right scope module scope' scene : Token}
      (kinds : [file, left, path, right, scope, module, scope', scene].map Token.kind =
        [.fileRef, .leftParen, .string, .rightParen, .scope, .name, .scope, .name])
      (somewhere : path.lexeme.trim ≠ []) :
    IsTarget [file, left, path, right, scope, module, scope', scene]
      (.otherFile path.lexeme module.lexeme scene.lexeme)

inductive IsCondition : List Token → Condition → Prop where
  | has {has item : Token} (kinds : [has, item].map Token.kind = [.has, .string]) :
    IsCondition [has, item] (.has item.lexeme)
  | lacks {has no item : Token} (kinds : [has, no, item].map Token.kind = [.has, .no, .string]) :
    IsCondition [has, no, item] (.lacks item.lexeme)

/-- Conditions with commas between them and a question mark at the end. -/
inductive IsGuard : List Token → List Condition → Prop where
  | last {ts : List Token} {c : Condition} {mark : Token} (condition : IsCondition ts c)
      (question : mark.kind = .question) : IsGuard (ts ++ [mark]) [c]
  | more {ts us : List Token} {c : Condition} {cs : List Condition} {mark : Token}
      (condition : IsCondition ts c) (comma : mark.kind = .comma) (rest : IsGuard us cs) :
    IsGuard (ts ++ mark :: us) (c :: cs)

/-- A label with an arrow to a target, with a guard in front or not. -/
inductive IsBranch : List Token → Branch → Prop where
  | free {label arrow : Token} {ts : List Token} {target : Target}
      (kinds : [label, arrow].map Token.kind = [.string, .arrow]) (leads : IsTarget ts target) :
    IsBranch (label :: arrow :: ts) ⟨label.lexeme, [], target, label.pos⟩
  | guarded {first label arrow : Token} {us ts : List Token} {cs : List Condition} {target : Target}
      (guard : IsGuard (first :: us) cs)
      (kinds : [label, arrow].map Token.kind = [.string, .arrow]) (leads : IsTarget ts target) :
    IsBranch (first :: us ++ label :: arrow :: ts) ⟨label.lexeme, cs, target, first.pos⟩

/-- Branches with commas between them, and one more comma at the end or not. -/
inductive AreBranches : List Token → List Branch → Prop where
  | last {ts : List Token} {b : Branch} (branch : IsBranch ts b) : AreBranches ts [b]
  | lastComma {ts : List Token} {b : Branch} {mark : Token} (branch : IsBranch ts b)
      (comma : mark.kind = .comma) : AreBranches (ts ++ [mark]) [b]
  | more {ts us : List Token} {b : Branch} {bs : List Branch} {mark : Token}
      (branch : IsBranch ts b) (comma : mark.kind = .comma) (rest : AreBranches us bs) :
    AreBranches (ts ++ mark :: us) (b :: bs)

/-- Strings, each with a comma after it or not. -/
inductive AreLines : List Token → List Text → Prop where
  | none : AreLines [] []
  | line {t : Token} {ts : List Token} {ls : List Text} (string : t.kind = .string)
      (rest : AreLines ts ls) : AreLines (t :: ts) (t.lexeme :: ls)
  | lineComma {t mark : Token} {ts : List Token} {ls : List Text} (string : t.kind = .string)
      (comma : mark.kind = .comma) (rest : AreLines ts ls) :
    AreLines (t :: mark :: ts) (t.lexeme :: ls)

/-- What a scene consists of. -/
inductive Part where
  | effect (e : Effect)
  | told (lines : List Text)
  | select (pos : Pos) (branches : List Branch)
  deriving DecidableEq, Repr

inductive IsPart : List Token → Part → Prop where
  | get {key item mark : Token}
      (kinds : [key, item, mark].map Token.kind = [.get, .string, .semicolon]) :
    IsPart [key, item, mark] (.effect (.get item.lexeme key.pos))
  | lose {key item mark : Token}
      (kinds : [key, item, mark].map Token.kind = [.lose, .string, .semicolon]) :
    IsPart [key, item, mark] (.effect (.lose item.lexeme key.pos))
  | told {key left right mark : Token} {ts : List Token} {ls : List Text}
      (opening : [key, left].map Token.kind = [.flavortext, .leftBrace]) (lines : AreLines ts ls)
      (closing : [right, mark].map Token.kind = [.rightBrace, .semicolon]) :
    IsPart (key :: left :: ts ++ [right, mark]) (.told ls)
  | select {key left right mark : Token} {ts : List Token} {bs : List Branch}
      (opening : [key, left].map Token.kind = [.select, .leftBrace]) (branches : AreBranches ts bs)
      (closing : [right, mark].map Token.kind = [.rightBrace, .semicolon]) :
    IsPart (key :: left :: ts ++ [right, mark]) (.select key.pos bs)

/-- Any number of the same, one after the other. -/
inductive Each {α : Type} (Is : List Token → α → Prop) : List Token → List α → Prop where
  | nil : Each Is [] []
  | cons {ts us : List Token} {a : α} {as : List α} (first : Is ts a) (rest : Each Is us as) :
    Each Is (ts ++ us) (a :: as)

structure SceneTree where
  name : Text
  pos : Pos
  parts : List Part
  deriving DecidableEq, Repr

/-- A scene with its name and parts. Its end need not be marked. -/
inductive IsScene : List Token → SceneTree → Prop where
  | scene {key name colon : Token} {ts closing : List Token} {parts : List Part}
      (opening : [key, name, colon].map Token.kind = [.sceneStart, .name, .colon])
      (inside : Each IsPart ts parts)
      (ending : closing.map Token.kind ∈ [[], [.sceneEnd], [.sceneEnd, .semicolon]]) :
    IsScene (key :: name :: colon :: ts ++ closing) ⟨name.lexeme, key.pos, parts⟩

structure ModuleTree where
  name : Text
  pos : Pos
  scenes : List SceneTree
  deriving DecidableEq, Repr

/-- A module with its name and scenes. The name may stand at its end again. -/
inductive IsModule : List Token → ModuleTree → Prop where
  | module {key name colon last : Token} {ts closing : List Token} {scenes : List SceneTree}
      (opening : [key, name, colon].map Token.kind = [.moduleStart, .name, .colon])
      (inside : Each IsScene ts scenes) (isEnd : last.kind = .moduleEnd)
      (ending : closing.map Token.kind ∈ [[], [.name], [.semicolon], [.name, .semicolon]]) :
    IsModule (key :: name :: colon :: ts ++ last :: closing) ⟨name.lexeme, key.pos, scenes⟩

namespace Part

@[simp] def effect? : Part → Option Effect
  | .effect e => some e
  | _ => none

@[simp] def lines? : Part → Option (List Text)
  | .told lines => some lines
  | _ => none

@[simp] def branches? : Part → Option (List Branch)
  | .select _ branches => some branches
  | _ => none

end Part

namespace SceneTree

/-- The scene that a tree stands for. -/
def scene (t : SceneTree) : Scene where
  name := t.name
  pos := t.pos
  flavortext := (t.parts.filterMap Part.lines?).head?
  effects := t.parts.filterMap Part.effect?
  branches := (t.parts.filterMap Part.branches?).flatten

/-- A scene offers branches once and tells lines at most once. -/
def Proper (t : SceneTree) : Prop :=
  (t.parts.filterMap Part.branches?).length = 1 ∧ (t.parts.filterMap Part.lines?).length ≤ 1

end SceneTree

namespace ModuleTree

/-- The module of a file that a tree stands for. -/
def module (file : Text) (t : ModuleTree) : Module where
  name := t.name
  pos := t.pos
  source := file
  scenes := t.scenes.map SceneTree.scene

/-- The scenes of a module have different names. -/
def Proper (t : ModuleTree) : Prop :=
  (∀ s ∈ t.scenes, s.Proper) ∧ (t.scenes.map SceneTree.name).Nodup

end ModuleTree

/-- That tokens are those of a file with the given modules, which have different names. -/
def IsScript (ts : List Token) (modules : List ModuleTree) : Prop :=
  Each IsModule ts modules ∧ (∀ m ∈ modules, m.Proper) ∧ (modules.map ModuleTree.name).Nodup

end Gamebook.Grammar
