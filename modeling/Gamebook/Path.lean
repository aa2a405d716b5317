import Gamebook.Failure

/-! # Paths

Paths of files: names divided by slashes. A path that starts with a slash is absolute; any other
starts from a directory. Cleaning a path drops empty names and `.`, and lets `..` take back the
name before it. There are no symbolic links among the files here, so the clean path of a file is the
only one it is known by, and the directory from which paths start is always known.
-/

namespace Gamebook.Path

/-- The byte that divides names. -/
def slash : UInt8 := 0x2F

/-- Whether a path starts at the root. -/
def isAbsolute (path : Text) : Bool :=
  path.head? = some slash

/-- One name added to the names of a clean path, which come last name first. There is nothing above
    the root. -/
def descend (absolute : Bool) (names : List Text) (name : Text) : List Text :=
  if name = [] ∨ name = Text.ofString "." then names
  else if name = Text.ofString ".." then
    match names with
    | [] => if absolute then [] else [name]
    | last :: above => if last = Text.ofString ".." then name :: last :: above else above
  else name :: names

/-- The shortest path that leads to the same place by names alone. -/
def clean (path : Text) : Text :=
  let absolute := isAbsolute path
  let names := ((Text.split slash path).foldl (descend absolute) []).reverse
  let relative := Text.join [slash] names
  if absolute then slash :: relative else if relative.isEmpty then "." else relative

/-- The clean path that leads along one path and then along another. -/
def join (first second : Text) : Text :=
  if first.isEmpty then if second.isEmpty then [] else clean second
  else clean (first ++ [slash] ++ second)

/-- The clean path of the directory that a path lies in. -/
def directory (path : Text) : Text :=
  clean (path.reverse.dropWhile (· ≠ slash)).reverse

/-- The clean absolute path of a path that starts from `base`. -/
def absolute (base path : Text) : Text :=
  if isAbsolute path then clean path else join base path

/-- The path by which a file is known, whatever path led to it. Nothing can be wrong with a path but
    that it is empty: the directory is at hand, and there are no links to follow. -/
def canonical (base path : Text) : Except Failure Text :=
  if path.isEmpty then .error [.said "loader: empty path"] else .ok (absolute base path)

end Gamebook.Path
