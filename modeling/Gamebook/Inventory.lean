import Gamebook.Script
import Gamebook.Text.CaseFold

/-! # Inventories

The items that a player holds. Items that differ only in case are one item; the spelling with which
an item came in is remembered for display. Items are kept in increasing order of their folded form.
-/

namespace Gamebook

/-- The items that a player holds. -/
structure Inventory where
  /-- The folded form and the spelling of each item, in increasing order of the folded forms. -/
  held : List (Text × Text) := []
  deriving DecidableEq, Repr, Inhabited

namespace Inventory

/-- The held items with one more, unless an item with this folded form is among them. -/
def insertHeld (key item : Text) : List (Text × Text) → List (Text × Text)
  | [] => [(key, item)]
  | (k, spelling) :: rest =>
    if k = key then (k, spelling) :: rest
    else if key.precedes k then (key, item) :: (k, spelling) :: rest
    else (k, spelling) :: insertHeld key item rest

/-- Whether an item is held, in whatever case. -/
def has (inv : Inventory) (item : Text) : Bool :=
  inv.held.any fun (key, _) => key = item.fold

/-- The inventory with an item. An item that is held already keeps its spelling. -/
def insert (inv : Inventory) (item : Text) : Inventory :=
  ⟨insertHeld item.fold item inv.held⟩

/-- The inventory without an item. -/
def erase (inv : Inventory) (item : Text) : Inventory :=
  ⟨inv.held.filter fun (key, _) => key ≠ item.fold⟩

/-- The inventory that the given items make up, the first spelling of each counting. -/
def ofItems (items : List Text) : Inventory :=
  items.foldl insert {}

/-- The spellings of the items, in increasing order of their folded forms. -/
def items (inv : Inventory) : List Text :=
  inv.held.map Prod.snd

/-- How many items are held. -/
def size (inv : Inventory) : Nat :=
  inv.held.length

/-- Whether both hold the same items, however spelled. -/
def sameItems (a b : Inventory) : Bool :=
  a.size = b.size && a.held.all fun (key, _) => b.held.any fun (other, _) => other = key

/-- Whether an effect changes what is held. -/
def changes (inv : Inventory) : Effect → Bool
  | .get item _ => !inv.has item
  | .lose item _ => inv.has item

/-- What is held after an effect. -/
def apply (inv : Inventory) : Effect → Inventory
  | .get item _ => inv.insert item
  | .lose item _ => inv.erase item

/-- What is held after effects in turn, and those of them that changed anything. -/
def applyAll (inv : Inventory) : List Effect → Inventory × List Effect
  | [] => (inv, [])
  | e :: rest =>
    let (after, changed) := (inv.apply e).applyAll rest
    (after, if inv.changes e then e :: changed else changed)

/-- Whether what is held meets a condition. -/
def meets (inv : Inventory) : Condition → Bool
  | .has item => inv.has item
  | .lacks item => !inv.has item

end Inventory

end Gamebook
