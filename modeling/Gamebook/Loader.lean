import Gamebook.Log
import Gamebook.Path
import Gamebook.Script.Parse

/-! # Loading scripts

A loader reads and parses files when they are first asked for and keeps what it found, so a file is
read at most once however often and by whatever path scenes refer to it. It finds scenes by their
address and follows the targets of branches.
-/

namespace Gamebook

/-- A scene with its address and the module that declares it. -/
structure Found where
  address : Address
  module : Module
  scene : Scene
  deriving DecidableEq, Repr, Inhabited

/-- What a file was found to hold when it was read. -/
structure Loaded where
  script : Script
  diagnostics : List Diagnostic
  /-- Why the script cannot be played. -/
  failure : Option Failure
  deriving DecidableEq, Repr, Inhabited

/-- The files read so far. -/
structure Loader where
  /-- The directory from which relative paths start. -/
  directory : Text
  /-- What was found in each file, by canonical path, in the order of reading. -/
  cache : List (Text × Loaded) := []
  /-- How many files have been parsed. -/
  parses : Nat := 0
  deriving DecidableEq, Repr, Inhabited

/-- How files are read: by path, in a world that reading may change. -/
abbrev ReadFile (σ : Type) := Text → σ → Except Failure Text × σ

/-- The result of an operation that may have read a file. -/
structure Fetched (σ α : Type) where
  result : Except Failure α
  loader : Loader
  world : σ
  log : List Log.Entry := []

namespace Loaded

/-- What the text of a file holds. -/
def ofText (path text : Text) : Loaded :=
  let (script, diagnostics) := Script.parse (Source.ofText path text)
  ⟨script, diagnostics, Diagnostic.failure? diagnostics⟩

/-- The script, if it can be played. -/
def playable (l : Loaded) : Except Failure Script :=
  match l.failure with
  | some failure => .error failure
  | none => .ok l.script

end Loaded

/-- The scene of a script with the given module and name. -/
def Script.find (s : Script) (module scene : Text) : Except Failure Found :=
  let address : Address := ⟨s.path, module, scene⟩
  match s.module? module with
  | none =>
    .error (.ofReport { problem := .moduleNotFound module s.path, address := address.text })
  | some m =>
    match m.scene? scene with
    | none =>
      .error (.ofReport { problem := .sceneNotFound scene module s.path, address := address.text })
    | some found => .ok ⟨address, m, found⟩

/-- How a scene is looked up whose file is to have been read. -/
abbrev Lookup := Loader → Address → Except Failure Found

namespace Loader

/-- The canonical paths of the files read so far, in increasing order. -/
def paths (l : Loader) : List Text :=
  Text.sorted (l.cache.map Prod.fst)

/-- The loader with one more file. -/
def keep (l : Loader) (path : Text) (loaded : Loaded) : Loader :=
  { l with cache := l.cache ++ [(path, loaded)], parses := l.parses + 1 }

/-- What a loader notes about a file that it has read for the first time. -/
def parsedLog (path : Text) (loaded : Loaded) : List Log.Entry :=
  (Diagnostic.warnings loaded.diagnostics).map
      (fun d => ⟨.warn, "parse warning", [("diagnostic", .text d.text)]⟩) ++
    [⟨.debug, "loader parsed file",
      [("file", .text path), ("modules", .number loaded.script.modules.length),
       ("errors", .number (Diagnostic.errors loaded.diagnostics).length)]⟩]

/-- What the file at a path holds. It is read only if it has not been read before. -/
def load {σ : Type} (read : ReadFile σ) (l : Loader) (path : Text) (w : σ) : Fetched σ Loaded :=
  match Path.canonical l.directory path with
  | .error cause => { result := .error (.because (.badPath path) cause), loader := l, world := w }
  | .ok key =>
    match l.cache.lookup key with
    | some loaded =>
      { result := .ok loaded, loader := l, world := w
        log := [⟨.debug, "loader cache hit", [("file", .text key)]⟩] }
    | none =>
      match read key w with
      | (.error cause, w) =>
        let problem := if cause.isMissingFile then .missingFile key else .unreadableFile key
        { result := .error (.because problem cause), loader := l, world := w
          log := [⟨.debug, "loader read failed",
            [("file", .text key), ("error", .text cause.text)]⟩] }
      | (.ok text, w) =>
        let loaded := Loaded.ofText key text
        { result := .ok loaded, loader := l.keep key loaded, world := w
          log := parsedLog key loaded }

/-- The scene at an address, whose file is read if it has not been read before. -/
def resolve {σ : Type} (read : ReadFile σ) (l : Loader) (a : Address) (w : σ) : Fetched σ Found :=
  let file := l.load read a.file w
  { file with
    result := do
      let loaded ← file.result
      let script ← loaded.playable
      script.find a.module a.scene }

/-- The scene at an address in a file that has been read. -/
def lookup (l : Loader) (a : Address) : Except Failure Found :=
  match l.cache.lookup a.file with
  | none => .error (.ofReport { problem := .fileNotLoaded a.file, address := a.text })
  | some loaded => do
    let script ← loaded.playable
    script.find a.module a.scene

/-- The scene in the same file that a target without a path leads to from a scene. -/
def lookupFrom (l : Loader) (origin : Address) (module : Option Text) (scene : Text)
    (look : Lookup := lookup) : Except Failure Found :=
  look l ⟨origin.file, module.getD origin.module, scene⟩

/-- The path that a target names, taken from the directory of the scene's file. -/
def targetPath (origin : Address) (path : Text) : Text :=
  if Path.isAbsolute path then path else Path.join (Path.directory origin.file) path

/-- The scene that a target leads to from a scene. -/
def follow {σ : Type} (read : ReadFile σ) (l : Loader) (origin : Address) (target : Target) (w : σ)
    (look : Lookup := lookup) : Fetched σ Found :=
  match target with
  | .sameFile module scene =>
    { result := l.lookupFrom origin module scene look, loader := l, world := w }
  | .otherFile path module scene => l.resolve read ⟨targetPath origin path, module, scene⟩ w

end Loader

end Gamebook
