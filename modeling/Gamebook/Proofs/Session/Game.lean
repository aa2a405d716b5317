import Gamebook.Proofs.Session.Offers
import Gamebook.Proofs.Session.View

/-! # The game that a session plays

Without files being read and kept, spellings and retries, a story is a game whose state is the
address of a scene and a set of folded items. Entering a scene first changes the items, then offers
the branches whose guards hold. A choice leads to the target of the branch with its number.
-/

namespace Gamebook

/-- The files of a story: what reading a canonical path gives, and the directory in which other
    paths start. -/
structure Story where
  directory : Text
  files : Text → Except Failure Text

/-- A scene that the player is in, and the items held there in folded form. -/
structure Standing where
  address : Address
  items : Finset Text
  deriving DecidableEq

/-- A state of the game. -/
inductive Game where
  /-- No scene has been entered yet. -/
  | waiting (items : Finset Text)
  /-- The player is to choose. -/
  | standing (here : Standing)
  /-- The player is in a scene that offers nothing. -/
  | stranded (here : Standing)
  /-- The story leads to a scene that it does not have. -/
  | lost
  deriving DecidableEq

def Effect.onItems (items : Finset Text) : Effect → Finset Text
  | .get item _ => insert item.fold items
  | .lose item _ => items.erase item.fold

def Condition.holdsWith (items : Finset Text) : Condition → Bool
  | .has item => item.fold ∈ items
  | .lacks item => item.fold ∉ items

/-- The branches of a scene that may be taken with some items, in the order of declaration. -/
def Scene.allowed (s : Scene) (items : Finset Text) : List Branch :=
  s.branches.filter fun b => b.guard.all (·.holdsWith items)

namespace Story

/-- The scene at an address with a canonical path, if the file can be read and played. -/
def scene? (st : Story) (a : Address) : Option Scene :=
  match st.files a.file with
  | .error _ => none
  | .ok text =>
    match (Loaded.ofText a.file text).failure with
    | some _ => none
    | none => ((Loaded.ofText a.file text).script.module? a.module).bind (·.scene? a.scene)

/-- The address with the canonical form of its path. -/
def locate? (st : Story) (a : Address) : Option Address :=
  match Path.canonical st.directory a.file with
  | .error _ => none
  | .ok file => some { a with file }

/-- Where a target leads: to the same module if none is named, to the same file if there is no path,
    and else to the file at the path from the directory of this one. -/
def target? (st : Story) (origin : Address) : Target → Option Address
  | .sameFile none scene => some { origin with scene }
  | .sameFile (some module) scene => some { origin with module, scene }
  | .otherFile path module scene =>
    let path := if Path.isAbsolute path then path else Path.join (Path.directory origin.file) path
    st.locate? ⟨path, module, scene⟩

/-- Whether a branch leads to another file or to a scene that this one declares. -/
def connects (st : Story) (origin : Address) (b : Branch) : Bool :=
  match b.target with
  | .otherFile .. => true
  | .sameFile .. => ((st.target? origin b.target).bind st.scene?).isSome

/-- The game after a scene is entered with some items. -/
def enter (st : Story) (items : Finset Text) (a : Address) : Game :=
  match st.scene? a with
  | none => .lost
  | some scene =>
    let items := scene.effects.foldl Effect.onItems items
    if scene.allowed items = [] then .stranded ⟨a, items⟩
    else if (scene.allowed items).all (st.connects a) then .standing ⟨a, items⟩
    else .lost

/-- The game after the scene at an address is entered, if there is such an address. -/
def enter? (st : Story) (items : Finset Text) : Option Address → Game
  | some a => st.enter items a
  | none => .lost

/-- The branches on offer. -/
def offered (st : Story) (here : Standing) : List Branch :=
  match st.scene? here.address with
  | none => []
  | some scene => scene.allowed here.items

/-- The choices on offer: the labels of the branches, numbered from one. -/
def visible (st : Story) (here : Standing) : List Choice :=
  (st.offered here).mapIdx fun i b => ⟨(i + 1 : Nat), b.label⟩

/-- The game after a move. Moves that make no sense change nothing. -/
def step (st : Story) : Game → Move → Game
  | .waiting items, .start entry => st.enter? items (st.locate? entry)
  | .standing here, .choose input =>
    match chosen? (st.offered here) input with
    | some b => st.enter? here.items (st.target? here.address b.target)
    | none => .standing here
  | g, _ => g

/-- The game after moves in turn. -/
def play (st : Story) (g : Game) (moves : List Move) : Game :=
  moves.foldl st.step g

/-- The host that does nothing but read the files of a story. -/
def host (st : Story) : Host Unit where
  halted w := (none, w)
  read path w := (st.files path, w)
  tell _ w := (none, w)
  offer _ w := (none, w)
  complain _ w := (none, w)

/-- A story of one file, in which a key opens a door and is lost behind it. -/
def vault : Story where
  directory := "/"
  files path :=
    if path = ("/a" : Text) then
      .ok (("@module m: @scene s: get \"Key\";" : Text) ++
        ("select \x7b has \"KEY\" ? \"open\" => t, has no \"key\" ? \"wait\" => s \x7d;" : Text) ++
        ("@scene t: lose \"key\"; select \x7b has \"key\" ? \"back\" => s \x7d;@end-module" : Text))
    else .error (.ofProblem .sessionCancelled)

end Story

namespace Inventory

variable {inv : Inventory}

theorem Keyed.meets_eq (keyed : inv.Keyed) (c : Condition) :
    inv.meets c = c.holdsWith inv.folded := by
  cases c with
  | has item =>
    rw [Bool.eq_iff_iff]
    simpa [meets, Condition.holdsWith] using keyed.has_iff item
  | lacks item =>
    rw [Bool.eq_iff_iff]
    simpa [meets, Condition.holdsWith] using not_congr (keyed.has_iff item)

theorem Keyed.folded_apply (keyed : inv.Keyed) (e : Effect) :
    (inv.apply e).folded = e.onItems inv.folded := by
  cases e with
  | get item pos => exact keyed.folded_insert item
  | lose item pos => exact keyed.folded_erase item

theorem Keyed.folded_foldl_apply (keyed : inv.Keyed) (effects : List Effect) :
    (effects.foldl Inventory.apply inv).folded = effects.foldl Effect.onItems inv.folded := by
  induction effects generalizing inv with
  | nil => rfl
  | cons e rest ih =>
    rw [List.foldl_cons, ih (keyed.apply e), keyed.folded_apply]
    rfl

theorem Keyed.offers_eq (keyed : inv.Keyed) (s : Scene) :
    s.offers inv = numbered (s.allowed inv.folded) := by
  have same : inv.meets = (·.holdsWith inv.folded) := funext keyed.meets_eq
  rw [Scene.offers_eq, same, Scene.allowed]

end Inventory

end Gamebook
