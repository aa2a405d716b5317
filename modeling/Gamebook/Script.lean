import Gamebook.Address
import Gamebook.Position

/-! # Scripts

A script is what one source file declares: modules of scenes. A scene changes what the player
holds, tells a text and offers branches to other scenes, each of which may ask for items that the
player holds or lacks.
-/

namespace Gamebook

/-- What entering a scene does to the player's items. -/
inductive Effect where
  /-- The player gets an item. -/
  | get (item : Text) (pos : Pos)
  /-- The player loses an item. -/
  | lose (item : Text) (pos : Pos)
  deriving DecidableEq, Repr, Inhabited

namespace Effect

/-- The item that an effect names. -/
def item : Effect → Text
  | .get item _ => item
  | .lose item _ => item

/-- Where an effect is declared. -/
def pos : Effect → Pos
  | .get _ pos => pos
  | .lose _ pos => pos

/-- An effect as it is written. -/
def text : Effect → Text
  | .get item _ => "get " ++ item.quoted
  | .lose item _ => "lose " ++ item.quoted

end Effect

/-- What a branch asks of the player. -/
inductive Condition where
  /-- The item is held. -/
  | has (item : Text)
  /-- The item is not held. -/
  | lacks (item : Text)
  deriving DecidableEq, Repr, Inhabited

/-- A condition as it is written. -/
def Condition.text : Condition → Text
  | .has item => "has " ++ item.quoted
  | .lacks item => "has no " ++ item.quoted

/-- Where a branch leads. -/
inductive Target where
  /-- To a scene of the same file, in the same module if none is named. -/
  | sameFile (module : Option Text) (scene : Text)
  /-- To a scene of the file at a path from the directory of this one. -/
  | otherFile (path module scene : Text)
  deriving DecidableEq, Repr, Inhabited

/-- A target as it is written. -/
def Target.text : Target → Text
  | .sameFile none scene => scene
  | .sameFile (some module) scene => module ++ "::" ++ scene
  | .otherFile path module scene => Address.text ⟨path, module, scene⟩

/-- A way on from a scene. -/
structure Branch where
  label : Text
  /-- All of these have to hold for the branch to be offered. -/
  guard : List Condition
  target : Target
  pos : Pos
  deriving DecidableEq, Repr, Inhabited

/-- A branch as it is written. -/
def Branch.text (b : Branch) : Text :=
  Text.join ", " (b.guard.map Condition.text) ++ (if b.guard.isEmpty then "" else " ? ") ++
    b.label.quoted ++ " => " ++ b.target.text

/-- A scene of a story. -/
structure Scene where
  name : Text
  pos : Pos
  /-- The lines that are told; a scene need not have any block of them. -/
  flavortext : Option (List Text)
  effects : List Effect
  branches : List Branch
  deriving DecidableEq, Repr, Inhabited

namespace Scene

/-- An effect on a line of its own. -/
def effectLine (e : Effect) : Text :=
  "    " ++ e.text ++ ";\n"

/-- A line that is told, on a line of its own. -/
def flavortextLine (line : Text) : Text :=
  "        " ++ line.quoted ++ "\n"

/-- A block of lines as it is written. -/
def flavortextText : Option (List Text) → Text
  | some lines => "    flavortext \x7b\n" ++ lines.flatMap flavortextLine ++ "    \x7d;\n"
  | none => ""

/-- Branches as they are written, a line each. -/
def branchesText (branches : List Branch) : Text :=
  if branches.isEmpty then ""
  else Text.join ",\n" (branches.map fun b => "        " ++ b.text) ++ "\n"

/-- A scene as it is written. -/
def text (s : Scene) : Text :=
  "@scene " ++ s.name ++ ":\n" ++ s.effects.flatMap effectLine ++ flavortextText s.flavortext ++
    "    select \x7b\n" ++ branchesText s.branches ++ "    \x7d;\n@end-scene"

end Scene

/-- A named collection of scenes. -/
structure Module where
  name : Text
  pos : Pos
  /-- The file that declares the module. -/
  source : Text
  scenes : List Scene
  deriving DecidableEq, Repr, Inhabited

namespace Module

/-- The scene with the given name. -/
def scene? (m : Module) (name : Text) : Option Scene :=
  m.scenes.find? fun s => s.name = name

/-- A scene and the end of its last line. -/
def sceneLines (s : Scene) : Text :=
  s.text ++ "\n"

/-- A module as it is written. -/
def text (m : Module) : Text :=
  "@module " ++ m.name ++ ":\n" ++ m.scenes.flatMap sceneLines ++ "@end-module " ++ m.name

end Module

/-- What one source file declares. -/
structure Script where
  path : Text
  modules : List Module
  deriving DecidableEq, Repr, Inhabited

/-- The module with the given name. -/
def Script.module? (s : Script) (name : Text) : Option Module :=
  s.modules.find? fun m => m.name = name

end Gamebook
