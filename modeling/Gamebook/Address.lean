import Gamebook.Text.Quoted

/-! # Addresses of scenes

A scene is found by the file, the module and the name it is declared with.
-/

namespace Gamebook

/-- Where a scene is declared. -/
structure Address where
  file : Text := []
  module : Text := []
  scene : Text := []
  deriving DecidableEq, Repr, Inhabited

/-- An address as it is written in stories and transcripts. -/
def Address.text (a : Address) : Text :=
  "@file(" ++ a.file.quoted ++ ")::" ++ a.module ++ "::" ++ a.scene

end Gamebook
