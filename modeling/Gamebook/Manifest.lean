import Gamebook.Disk
import Gamebook.Entry
import Gamebook.Markup.Tree
import Gamebook.Text.Blank

/-! # Manifests

A manifest says how a story is to be played: where it starts, what the player holds at the start, and
where transcripts are kept. It is a mapping of markup with known keys. Everything in it that has the
wrong shape is found before anything else is looked at; paths in it start from the folder that it is
in.
-/

namespace Gamebook

/-- How a story is to be played. -/
structure Manifest where
  /-- The clean absolute path of the manifest itself. -/
  path : Text := []
  file : Text := []
  module : Text := []
  scene : Text := []
  /-- What the player holds at the start, if the manifest says so. -/
  inventory : Option (List Text) := none
  transcript : Text := []
  deriving DecidableEq, Repr, Inhabited

namespace Manifest

/-! ## Shapes -/

/-- What a part of a manifest should be. -/
inductive Shape where
  | manifest
  | entry
  | texts
  | text
  deriving DecidableEq, Repr, Inhabited

/-- The name of a shape. -/
def Shape.name : Shape → Text
  | .manifest => "config.Manifest"
  | .entry => "config.Entry"
  | .texts => "[]string"
  | .text => "string"

/-- A part of a manifest that has the wrong shape. -/
inductive Mismatch where
  /-- A key that is not known. -/
  | unknownKey (line : Nat) (key : Text) (shape : Shape)
  /-- A key that was there before. -/
  | repeatedKey (line : Nat) (key : Text) (first : Nat)
  /-- A scalar of some kind. -/
  | scalar (line : Nat) (tag : Markup.Tag) (text : Text) (shape : Shape)
  | sequence (line : Nat) (shape : Shape)
  | mapping (line : Nat) (shape : Shape)
  deriving DecidableEq, Repr, Inhabited

/-- A text as it is shown in a complaint: a long one is cut short. -/
def excerpt (t : Text) : Text :=
  if 10 < t.length then t.take 7 ++ "..." else t

/-- What people are told about a mismatch. -/
def Mismatch.message : Mismatch → Text
  | .unknownKey line key shape =>
    "line " ++ Text.ofNat line ++ ": field " ++ key ++ " not found in type " ++ shape.name
  | .repeatedKey line key first =>
    "line " ++ Text.ofNat line ++ ": mapping key " ++ key.quoted ++ " already defined at line " ++
      Text.ofNat first
  | .scalar line tag text shape =>
    "line " ++ Text.ofNat line ++ ": cannot unmarshal " ++ tag.text ++ " `" ++ excerpt text ++
      "` into " ++ shape.name
  | .sequence line shape =>
    "line " ++ Text.ofNat line ++ ": cannot unmarshal !!seq into " ++ shape.name
  | .mapping line shape =>
    "line " ++ Text.ofNat line ++ ": cannot unmarshal !!map into " ++ shape.name

/-- What was understood of a part, and what was wrong in it. -/
structure Understood (α : Type) where
  value : α
  mismatches : List Mismatch := []

/-- What a scalar is taken for. -/
def tagOf (quoted : Bool) (t : Text) : Markup.Tag :=
  if quoted then .str else .ofPlain t

/-- The scalar of a key, and which kind of node it is. Two keys are alike if they agree in both. -/
def keyOf : Markup.Tree → Nat × Text
  | .scalar _ _ text => (0, text)
  | .sequence .. => (1, [])
  | .mapping .. => (2, [])

/-- The keys that repeat a key before them. -/
def repeatedKeys : List (Markup.Tree × Markup.Tree) → List Mismatch
  | [] => []
  | (key, _) :: rest =>
    let again := rest.filter fun (other, _) => keyOf other = keyOf key
    again.map (fun (other, _) => .repeatedKey other.line (keyOf other).2 key.line) ++
      repeatedKeys rest

/-- The mismatch of a node that is nothing but the wrong shape. Nothing at all fits every shape. -/
def misfit (shape : Shape) : Markup.Tree → List Mismatch
  | .scalar line quoted text =>
    let tag := tagOf quoted text
    if tag = .null then [] else [.scalar line tag text shape]
  | .sequence line _ => [.sequence line shape]
  | .mapping line entries =>
    let repeated := repeatedKeys entries
    if repeated.isEmpty then [.mapping line shape] else repeated

/-- A text, or nothing. Scalars of every kind are texts. -/
def readText : Markup.Tree → Understood (Option Text)
  | .scalar _ quoted text => ⟨if tagOf quoted text = .null then none else some text, []⟩
  | node => ⟨none, misfit .text node⟩

/-- Texts. Those that are nothing are left out. -/
def readTexts : Markup.Tree → Understood (Option (List Text))
  | .sequence _ items =>
    let texts := items.map readText
    ⟨some (texts.filterMap Understood.value), texts.flatMap Understood.mismatches⟩
  | node => ⟨none, misfit .texts node⟩

/-- Reads the entries of a mapping in turn. Keys that are nothing are passed over. -/
def readEntries {α : Type} (step : Nat → Text → Markup.Tree → α → Understood α) :
    List (Markup.Tree × Markup.Tree) → α → Understood α
  | [], a => ⟨a, []⟩
  | (key, value) :: rest, a =>
    let name := readText key
    let here := match name.value with
      | some name => step key.line name value a
      | none => ⟨a, []⟩
    let more := readEntries step rest here.value
    ⟨more.value, name.mismatches ++ here.mismatches ++ more.mismatches⟩

/-- Reads a mapping with known keys. Nothing of it is understood if a key is repeated. -/
def readMapping {α : Type} (shape : Shape) (step : Nat → Text → Markup.Tree → α → Understood α)
    (a : α) : Markup.Tree → Understood α
  | .mapping _ entries =>
    let repeated := repeatedKeys entries
    if repeated.isEmpty then readEntries step entries a else ⟨a, repeated⟩
  | node => ⟨a, misfit shape node⟩

/-- The manifest with a text understood, or as it was. -/
def setText (set : Text → Manifest) (m : Manifest) (node : Markup.Tree) : Understood Manifest :=
  let found := readText node
  ⟨(found.value.map set).getD m, found.mismatches⟩

/-- One key of the entry. -/
def entryStep (line : Nat) (key : Text) (node : Markup.Tree) (m : Manifest) : Understood Manifest :=
  if key = Text.ofString "file" then setText (fun file => { m with file }) m node
  else if key = Text.ofString "module" then setText (fun module => { m with module }) m node
  else if key = Text.ofString "scene" then setText (fun scene => { m with scene }) m node
  else ⟨m, [.unknownKey line key .entry]⟩

/-- One key of the manifest. -/
def step (line : Nat) (key : Text) (node : Markup.Tree) (m : Manifest) : Understood Manifest :=
  if key = Text.ofString "entry" then readMapping .entry entryStep m node
  else if key = Text.ofString "inventory" then
    let found := readTexts node
    ⟨{ m with inventory := found.value }, found.mismatches⟩
  else if key = Text.ofString "transcript" then
    setText (fun transcript => { m with transcript }) m node
  else ⟨m, [.unknownKey line key .manifest]⟩

/-- The manifest that a document describes. -/
def ofTree (t : Markup.Tree) : Understood Manifest :=
  readMapping .manifest step {} t

/-! ## Loading -/

/-- Why a manifest cannot be used. -/
inductive Fault where
  | noPath
  | unreadable (path : Text) (cause : Failure)
  | empty (path : Text)
  /-- The file is not markup, or cannot be read to its end. -/
  | malformed (path : Text) (why : Text)
  | mismatched (path : Text) (mismatches : List Mismatch)
  /-- The manifest leaves out something, or holds something that cannot be. -/
  | invalid (path : Text) (issues : List Text)
  deriving DecidableEq, Repr, Inhabited

/-- Texts, each after a mark. -/
def each (mark : Text) (texts : List Text) : Text :=
  texts.flatMap (mark ++ ·)

/-- What people are told about a fault. -/
def Fault.message : Fault → Text
  | .noPath => "manifest: empty path"
  | .unreadable path cause => "manifest: open " ++ path ++ ": " ++ cause.text
  | .empty path => "manifest: " ++ path ++ " is empty"
  | .malformed path why => "manifest: parse " ++ path ++ ": yaml: " ++ why
  | .mismatched path mismatches =>
    "manifest: parse " ++ path ++ ": yaml: unmarshal errors:" ++
      each "\n  " (mismatches.map Mismatch.message)
  | .invalid path issues => "manifest: " ++ path ++ " is invalid:" ++ each "\n- " issues

/-- The path of a file, taken from a folder. A database in memory has no path. -/
def resolve (folder path : Text) : Text :=
  if path.isEmpty ∨ Path.isAbsolute path ∨ path = Text.ofString ":memory:" then path
  else Path.join folder path

/-- The manifest at a path, with what it leaves out filled in and its paths made absolute. -/
def completed (m : Manifest) (path : Text) : Manifest :=
  let usual : Entry := {}
  let folder := Path.directory path
  { m with
    path
    module := if m.module.isEmpty then usual.module else m.module
    scene := if m.scene.isEmpty then usual.scene else m.scene
    file := resolve folder m.file
    transcript := resolve folder m.transcript }

/-- The items, numbered from `first`, that are blank. -/
def blankItems (first : Nat) : List Text → List Text
  | [] => []
  | item :: rest =>
    if item.trim.isEmpty then
      ("inventory[" ++ Text.ofNat first ++ "] must be a non-empty string") :: blankItems (first + 1) rest
    else blankItems (first + 1) rest

/-- What is wrong with a manifest. -/
def issues (m : Manifest) : List Text :=
  (if m.file.isEmpty then [Text.ofString "entry.file must be provided"] else []) ++
    blankItems 0 (m.inventory.getD [])

/-- The manifest at a path, if nothing is wrong with it. -/
def ofContents (path contents : Text) : Except Fault Manifest :=
  match Markup.Tree.ofText contents with
  | .error fault => .error (.malformed path fault.message)
  | .ok none => .error (.empty path)
  | .ok (some tree) =>
    let found := ofTree tree
    if ¬ found.mismatches.isEmpty then .error (.mismatched path found.mismatches)
    else
      let m := found.value.completed path
      if m.issues.isEmpty then .ok m else .error (.invalid path m.issues)

/-- Loads the manifest that a path leads to. -/
def load (d : Disk) (path : Text) : Except Fault Manifest :=
  if path.isEmpty then .error .noPath
  else
    let path := Path.absolute d.directory path
    match d.openAt path with
    | .error cause => .error (.unreadable path cause)
    | .ok node =>
      match Disk.contents path node with
      | .error cause => .error (.malformed path ("input error: " ++ cause.text))
      | .ok contents => ofContents path contents

end Manifest

end Gamebook
