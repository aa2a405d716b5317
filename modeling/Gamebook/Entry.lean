import Gamebook.Address
import Gamebook.Failure
import Gamebook.Text.Quoted

/-! # Entries

An entry names the scene at which a session starts, without its file: `module::scene`, or the name
of a scene alone.
-/

namespace Gamebook

/-- A scene by its module and its name. Unless something else is said, a story starts at the scene
    `start` of the module `main`. -/
structure Entry where
  module : Text := "main"
  scene : Text := "start"
  deriving DecidableEq, Repr, Inhabited

namespace Entry

/-- What stands between a module and a scene. -/
def separator : Text := "::"

/-- The failure to read a text as an entry. -/
def malformed (words : Text) : Failure :=
  [.said ("entry " ++ words.quoted), .said "expected module::scene"]

/-- The entry that a text names. A name alone is a scene of the usual module, and no name at all is
    the usual entry. -/
def parse (words : Text) : Except Failure Entry :=
  if words.isEmpty then .ok {}
  else
    match Text.cut separator words with
    | none => .ok { scene := words }
    | some (module, scene) =>
      if module.isEmpty ∨ scene.isEmpty ∨ (Text.cut separator scene).isSome then .error (malformed words)
      else .ok ⟨module, scene⟩

/-- An entry of a file. -/
def address (e : Entry) (file : Text) : Address :=
  ⟨file, e.module, e.scene⟩

end Entry

end Gamebook
