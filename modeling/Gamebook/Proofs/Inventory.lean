import Gamebook.Inventory
import Mathlib.Data.Finset.Basic
import Mathlib.Data.Finset.Dedup

/-! # Inventories as sets of folded items

An inventory remembers how its items were spelled and keeps them in order. Play depends on less:
only the set `folded` of folded forms matters. Each operation is described here by what it does to
that set. The descriptions need every item to be kept under its own folded form (`Keyed`), which
all operations preserve.
-/

namespace Gamebook.Inventory

/-- The folded forms of the items that are held. -/
def folded (inv : Inventory) : Finset Text :=
  (inv.items.map Text.fold).toFinset

/-- That every item is kept under its own folded form. -/
def Keyed (inv : Inventory) : Prop :=
  ∀ entry ∈ inv.held, entry.1 = entry.2.fold

theorem mem_insertHeld {key item : Text} {held : List (Text × Text)} {entry : Text × Text}
    (member : entry ∈ insertHeld key item held) : entry = (key, item) ∨ entry ∈ held := by
  induction held with
  | nil => exact .inl (by simpa [insertHeld] using member)
  | cons first rest ih =>
    obtain ⟨k, spelling⟩ := first
    simp only [insertHeld] at member
    split at member
    · exact .inr member
    · split at member
      · exact (List.mem_cons.mp member).imp id id
      · rcases List.mem_cons.mp member with same | later
        · exact .inr (same ▸ List.mem_cons_self)
        · exact (ih later).imp id (List.mem_cons_of_mem _)

/-- Putting an item in adds exactly its key to the keys. -/
theorem mem_keys_insertHeld (key item k : Text) (held : List (Text × Text)) :
    k ∈ (insertHeld key item held).map Prod.fst ↔ k = key ∨ k ∈ held.map Prod.fst := by
  induction held with
  | nil => simp [insertHeld]
  | cons first rest ih =>
    obtain ⟨other, spelling⟩ := first
    simp only [insertHeld]
    split
    · next same =>
      subst same
      simp
    · split
      · simp
      · simp only [List.map_cons, List.mem_cons, ih]
        tauto

theorem keyed_empty : Keyed {} := by
  intro entry member
  exact absurd member List.not_mem_nil

theorem Keyed.insert {inv : Inventory} (keyed : inv.Keyed) (item : Text) :
    (inv.insert item).Keyed := by
  intro entry member
  rcases mem_insertHeld member with rfl | member
  · rfl
  · exact keyed entry member

theorem Keyed.erase {inv : Inventory} (keyed : inv.Keyed) (item : Text) :
    (inv.erase item).Keyed := by
  intro entry member
  exact keyed entry (List.mem_of_mem_filter member)

theorem Keyed.apply {inv : Inventory} (keyed : inv.Keyed) (e : Effect) : (inv.apply e).Keyed := by
  cases e with
  | get item pos => exact keyed.insert item
  | lose item pos => exact keyed.erase item

/-- The inventory after effects is found by applying them one after the other. -/
theorem applyAll_fst (inv : Inventory) (effects : List Effect) :
    (inv.applyAll effects).1 = effects.foldl apply inv := by
  induction effects generalizing inv with
  | nil => rfl
  | cons e rest ih => exact ih (inv.apply e)

theorem Keyed.foldl_apply {inv : Inventory} (keyed : inv.Keyed) (effects : List Effect) :
    (effects.foldl Inventory.apply inv).Keyed := by
  induction effects generalizing inv with
  | nil => exact keyed
  | cons e rest ih => exact ih (keyed.apply e)

theorem Keyed.foldl_insert {inv : Inventory} (keyed : inv.Keyed) (items : List Text) :
    (items.foldl Inventory.insert inv).Keyed := by
  induction items generalizing inv with
  | nil => exact keyed
  | cons item rest ih => exact ih (keyed.insert item)

theorem keyed_ofItems (items : List Text) : (ofItems items).Keyed :=
  keyed_empty.foldl_insert items

/-- The folded forms are the keys. -/
theorem Keyed.keys_eq {inv : Inventory} (keyed : inv.Keyed) :
    inv.held.map Prod.fst = inv.items.map Text.fold := by
  rw [items, List.map_map]
  exact List.map_congr_left keyed

theorem Keyed.mem_folded {inv : Inventory} (keyed : inv.Keyed) (key : Text) :
    key ∈ inv.folded ↔ key ∈ inv.held.map Prod.fst := by
  rw [folded, List.mem_toFinset, keyed.keys_eq]

theorem Keyed.has_iff {inv : Inventory} (keyed : inv.Keyed) (item : Text) :
    inv.has item = true ↔ item.fold ∈ inv.folded := by
  rw [keyed.mem_folded]
  simp [has]

theorem Keyed.folded_insert {inv : Inventory} (keyed : inv.Keyed) (item : Text) :
    (inv.insert item).folded = Insert.insert item.fold inv.folded := by
  ext key
  rw [(keyed.insert item).mem_folded, Finset.mem_insert, keyed.mem_folded]
  exact mem_keys_insertHeld item.fold item key inv.held

theorem Keyed.folded_erase {inv : Inventory} (keyed : inv.Keyed) (item : Text) :
    (inv.erase item).folded = inv.folded.erase item.fold := by
  ext key
  rw [(keyed.erase item).mem_folded, Finset.mem_erase, keyed.mem_folded]
  simp only [Inventory.erase, List.mem_map, List.mem_filter, decide_eq_true_eq]
  constructor
  · rintro ⟨entry, ⟨member, other⟩, rfl⟩
    exact ⟨other, entry, member, rfl⟩
  · rintro ⟨other, entry, member, rfl⟩
    exact ⟨entry, ⟨member, other⟩, rfl⟩

theorem Keyed.folded_foldl_insert {inv : Inventory} (keyed : inv.Keyed) (items : List Text) :
    (items.foldl Inventory.insert inv).folded = inv.folded ∪ (items.map Text.fold).toFinset := by
  induction items generalizing inv with
  | nil => simp
  | cons item rest ih =>
    simp only [List.foldl_cons, List.map_cons, List.toFinset_cons]
    rw [ih (keyed.insert item), keyed.folded_insert]
    ext key
    simp only [Finset.mem_union, Finset.mem_insert]
    tauto

/-- An inventory made of items holds exactly their folded forms. -/
theorem folded_ofItems (items : List Text) :
    (ofItems items).folded = (items.map Text.fold).toFinset := by
  rw [ofItems, keyed_empty.folded_foldl_insert]
  simp [folded, Inventory.items]

end Gamebook.Inventory
