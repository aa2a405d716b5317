import Gamebook.Proofs.Inventory.Sharing
import Mathlib.Data.Finset.Card

/-! # Inventories side by side

Inventories are made, changed and copied beside each other, each known by its number. Every one of
them is what its past makes of nothing (`ofPast`), where the past of a copy begins with the past of
the original. So what is known of an inventory comes down to the effects in its past: its items are
kept in order under their folded forms, the last effect that names an item decides whether it is
held, and two inventories hold the same items exactly if they have as many and one holds all of the
other's.
-/

namespace Gamebook

namespace Handling

/-- The past of each inventory after a handling, from the past of each before. Items that an
    inventory is made of have been added in turn. -/
def onPasts (pasts : List (List Effect)) : Handling → List (List Effect)
  | .make items => pasts ++ [items.map (.get · .start)]
  | .change n e => pasts.modify n (· ++ [e])
  | .copy n => pasts ++ pasts[n]?.toList

/-- The past of each inventory after handlings in turn. -/
def pasts (hs : List Handling) : List (List Effect) :=
  hs.foldl onPasts []

end Handling

namespace Inventory

/-! ## One inventory -/

section Valid

variable {inv a b : Inventory}

theorem Valid.increasing (valid : inv.Valid) :
    (inv.items.map Text.fold).Pairwise (Text.precedes · ·) := by
  rw [← valid.keyed.keys_eq]
  exact List.pairwise_map.mpr valid.ordered

theorem Valid.nodup (valid : inv.Valid) : (inv.items.map Text.fold).Nodup := by
  apply valid.increasing.imp
  rintro s t before rfl
  simp [Text.precedes_irrefl] at before

theorem Valid.card_folded (valid : inv.Valid) : inv.folded.card = inv.size := by
  rw [folded, List.toFinset_card_of_nodup valid.nodup]
  simp [items, size]

theorem Valid.has_apply (valid : inv.Valid) (e : Effect) : (inv.apply e).has e.item = e.isGet := by
  rw [has_eq_isSome, spelling?, valid.lookup_apply]
  cases e with
  | get item pos => simp [Effect.onSpelling, Effect.item, Effect.isGet]
  | lose item pos => simp [Effect.onSpelling, Effect.item, Effect.isGet]

/-- An effect is reported to change something exactly if its item is held before or after it, but
    not both. -/
theorem Valid.changes_iff (valid : inv.Valid) (e : Effect) :
    inv.changes e = true ↔ (inv.apply e).has e.item ≠ inv.has e.item := by
  rw [valid.has_apply]
  cases e with
  | get item pos => cases held : inv.has item <;> simp [changes, Effect.isGet, Effect.item, held]
  | lose item pos => cases held : inv.has item <;> simp [changes, Effect.isGet, Effect.item, held]

theorem Valid.spelling?_apply_of_ne (valid : inv.Valid) {e : Effect} {item : Text}
    (other : item.fold ≠ e.item.fold) : (inv.apply e).spelling? item = inv.spelling? item := by
  have unnamed : ¬e.names item.fold := by simpa [Effect.names] using Ne.symm other
  rw [spelling?, valid.lookup_apply, Effect.onSpelling_of_not_names unnamed]
  rfl

/-- Under a key stands the first of the items that fold to it. -/
theorem Keyed.lookup_eq_find? (keyed : inv.Keyed) (key : Text) :
    inv.held.lookup key = inv.items.find? (·.fold = key) := by
  obtain ⟨held⟩ := inv
  simp only [items]
  induction held with
  | nil => rfl
  | cons first rest ih =>
    obtain ⟨here, later⟩ := List.forall_mem_cons.mp keyed
    rw [lookup_cons_eq_ite, List.map_cons, List.find?_cons, ih later, here]
    by_cases same : first.2.fold = key
    · simp [same]
    · simp [same, Ne.symm same]

/-! ## An inventory by its past -/

/-- What is held after effects from the beginning. -/
def ofPast (past : List Effect) : Inventory :=
  past.foldl apply {}

theorem valid_ofPast (past : List Effect) : (ofPast past).Valid :=
  valid_empty.foldl_apply past

theorem ofItems_eq_ofPast (items : List Text) :
    ofItems items = ofPast (items.map (.get · .start)) := by
  rw [ofPast, List.foldl_map]
  rfl

/-- The last effect that names an item decides whether it is held. -/
theorem has_ofPast (past : List Effect) (item : Text) :
    (ofPast past).has item = (past.filter (·.names item.fold)).getLast?.any Effect.isGet := by
  have found := valid_empty.lookup_after past item.fold
  rw [has_eq_isSome, spelling?, ofPast, found, Effect.isSome_remembered]
  cases (past.filter (·.names item.fold)).getLast? with
  | none => rfl
  | some e => rfl

theorem filter_names_gets (items : List Text) (key : Text) :
    (items.map fun item => Effect.get item .start).filter (·.names key) =
      (items.filter (·.fold = key)).map (.get · .start) := by
  rw [List.filter_map]
  rfl

theorem lookup_ofItems (items : List Text) (key : Text) :
    (ofItems items).held.lookup key = items.find? (·.fold = key) := by
  have gets : ((items.filter (·.fold = key)).map fun item => Effect.get item .start).all
      Effect.isGet = true := by
    simp [Effect.isGet]
  have since := List.rtakeWhile_eq_self_iff.mpr (List.all_eq_true.mp gets)
  rw [ofItems_eq_ofPast, ofPast, valid_empty.lookup_after, filter_names_gets, Effect.remembered,
    if_pos gets, since, List.head?_map, List.head?_filter, Option.map_map]
  cases items.find? (·.fold = key) with
  | none => rfl
  | some item => rfl

/-- An inventory is made up by its own items again, with their spellings. -/
theorem Valid.ofItems_items (valid : inv.Valid) : ofItems inv.items = inv := by
  apply (valid_ofItems inv.items).ext valid
  intro key
  rw [lookup_ofItems, valid.keyed.lookup_eq_find?]

/-! ## Two inventories -/

theorem Keyed.sameItems_iff (keyed : a.Keyed) (also : b.Keyed) :
    a.sameItems b = true ↔ a.size = b.size ∧ a.folded ⊆ b.folded := by
  have within : (a.held.all fun entry => b.held.any fun other => other.1 = entry.1) = true ↔
      a.folded ⊆ b.folded := by
    constructor
    · intro all key member
      rw [keyed.mem_folded] at member
      obtain ⟨entry, held, rfl⟩ := List.mem_map.mp member
      rw [also.mem_folded]
      simpa using List.all_eq_true.mp all entry held
    · intro subset
      apply List.all_eq_true.mpr
      intro entry held
      have member := subset ((keyed.mem_folded entry.1).mpr (List.mem_map_of_mem held))
      rw [also.mem_folded] at member
      simpa using member
  simp only [sameItems, Bool.and_eq_true, decide_eq_true_eq, within]

/-- As many items of which all are held by the other are the same items. -/
theorem Valid.sameItems_iff_folded (valid : a.Valid) (also : b.Valid) :
    a.sameItems b = true ↔ a.folded = b.folded := by
  rw [valid.keyed.sameItems_iff also.keyed, ← valid.card_folded, ← also.card_folded]
  constructor
  · rintro ⟨many, subset⟩
    exact Finset.eq_of_subset_of_card_le subset many.ge
  · intro same
    rw [same]
    exact ⟨rfl, Finset.Subset.refl _⟩

theorem Keyed.folded_subset (keyed : a.Keyed) (also : b.Keyed)
    (held : ∀ item, a.has item = true → b.has item = true) : a.folded ⊆ b.folded := by
  intro key member
  obtain ⟨item, among, rfl⟩ := List.mem_map.mp (List.mem_toFinset.mp member)
  exact (also.has_iff item).mp (held item ((keyed.has_iff item).mpr member))

theorem Valid.sameItems_iff_has (valid : a.Valid) (also : b.Valid) :
    a.sameItems b = true ↔ ∀ item, a.has item = b.has item := by
  rw [valid.sameItems_iff_folded also]
  constructor
  · intro same item
    rw [Bool.eq_iff_iff, valid.keyed.has_iff, also.keyed.has_iff, same]
  · intro same
    apply Finset.Subset.antisymm
    · exact valid.keyed.folded_subset also.keyed fun item => (same item ▸ ·)
    · exact also.keyed.folded_subset valid.keyed fun item => (same item ▸ ·)

end Valid

/-- What is known of an inventory with a past. -/
structure Accounts (inv : Inventory) (past : List Effect) : Prop where
  keyed : ∀ entry ∈ inv.held, entry.1 = entry.2.fold
  has : ∀ item,
    inv.has item = (past.filter (·.names item.fold)).getLast?.any Effect.isGet
  /-- An effect is reported to change something exactly if it does, -/
  changes : ∀ e, inv.changes e = true ↔ (inv.apply e).has e.item ≠ inv.has e.item
  /-- and otherwise nothing is changed at all. -/
  unchanged : ∀ e, inv.changes e = false → inv.apply e = inv
  others : ∀ e item, item.fold ≠ e.item.fold →
    (inv.apply e).has item = inv.has item ∧ (inv.apply e).spelling? item = inv.spelling? item
  size : inv.items.length = inv.size
  increasing : (inv.items.map Text.fold).Pairwise (Text.precedes · ·)
  distinct : (inv.items.map Text.fold).Nodup
  remade : ofItems inv.items = inv

theorem accounts_ofPast (past : List Effect) : (ofPast past).Accounts past := by
  have valid := valid_ofPast past
  exact
    { keyed := valid.keyed
      has := has_ofPast past
      changes := valid.changes_iff
      unchanged := fun e idle => valid.apply_of_not_changes idle
      others := by
        intro e item other
        have same := valid.spelling?_apply_of_ne other
        exact ⟨by rw [has_eq_isSome, has_eq_isSome, same], same⟩
      size := by simp [items, Inventory.size]
      increasing := valid.increasing
      distinct := valid.nodup
      remade := valid.ofItems_items }

end Inventory

/-! ## A storeroom -/

namespace Storeroom

open Inventory

variable {room : Storeroom} {pasts : List (List Effect)}

/-- A handling keeps every inventory in line with its past. -/
theorem handle_eq (tracked : room = pasts.map ofPast) (h : Handling) :
    room.handle h = (h.onPasts pasts).map ofPast := by
  subst tracked
  cases h with
  | make items => simp [handle, Handling.onPasts, ofItems_eq_ofPast]
  | change n e =>
    have applied (past : List Effect) : (ofPast past).apply e = ofPast (past ++ [e]) := by
      simp [ofPast]
    apply List.ext_getElem?
    intro k
    simp only [handle, Handling.onPasts, List.getElem?_modify, List.getElem?_map]
    by_cases here : n = k
    · cases pasts[k]? <;> simp [here, applied]
    · simp [here]
  | copy n => cases here : pasts[n]? <;> simp [handle, Handling.onPasts, here]

theorem handleAll_eq (tracked : room = pasts.map ofPast) (hs : List Handling) :
    room.handleAll hs = (hs.foldl Handling.onPasts pasts).map ofPast := by
  induction hs generalizing room pasts with
  | nil => exact tracked
  | cons h hs ih => exact ih (handle_eq tracked h)

/-- What is not changed itself stays as it is. -/
theorem getElem?_handle {n : Nat} {inv : Inventory} (here : room[n]? = some inv) {h : Handling}
    (elsewhere : ∀ e, h ≠ .change n e) : (room.handle h)[n]? = some inv := by
  have inside : n < room.length := (List.getElem?_eq_some_iff.mp here).1
  cases h with
  | make items | copy m => simpa [handle, List.getElem?_append_left inside] using here
  | change m e =>
    have apart : m ≠ n := fun same => elsewhere e (same ▸ rfl)
    simpa [handle, List.getElem?_modify, apart] using here

theorem getElem?_handleAll {n : Nat} {inv : Inventory} (here : room[n]? = some inv)
    {hs : List Handling} (elsewhere : ∀ h ∈ hs, ∀ e, h ≠ .change n e) :
    (room.handleAll hs)[n]? = some inv := by
  induction hs generalizing room with
  | nil => exact here
  | cons h hs ih =>
    obtain ⟨first, rest⟩ := List.forall_mem_cons.mp elsewhere
    exact ih (getElem?_handle here first) rest

end Storeroom

/-- Whatever is done with inventories, each of them keeps its items in increasing order under their
    folded forms, holds exactly the items of which the last one with the same folded form was added,
    reports exactly the changes that are made, and is made up again by its own items. Two of them
    are equal exactly if they hold the same, so being equal is an equivalence. A copy is an
    inventory of its own: what is done with the one does not change the other. All this is so of
    inventories by reference too, in whatever order the entries of a table are copied. -/
theorem inventories_are_folded_sets (hs : List Handling) :
    let room := Storeroom.handleAll [] hs
    (∀ (n : Nat) (inv : Inventory), room[n]? = some inv →
      ∃ past, (Handling.pasts hs)[n]? = some past ∧ inv.Accounts past) ∧
    (∀ a ∈ room, ∀ b ∈ room, a.sameItems b = true ↔ ∀ item, a.has item = b.has item) ∧
    (∀ a ∈ room, a.sameItems a = true) ∧
    (∀ a ∈ room, ∀ b ∈ room, a.sameItems b = true → b.sameItems a = true) ∧
    (∀ a ∈ room, ∀ b ∈ room, ∀ c ∈ room,
      a.sameItems b = true → b.sameItems c = true → a.sameItems c = true) ∧
    (∀ (n : Nat) (inv : Inventory), room[n]? = some inv →
      let copied := room.handle (.copy n)
      copied[room.length]? = some inv ∧ copied[n]? = some inv ∧
      ∀ (k : Nat) (held : Inventory), copied[k]? = some held →
        ∀ more, (∀ h ∈ more, ∀ e, h ≠ .change k e) → (copied.handleAll more)[k]? = some held) ∧
    ∀ range : List (Text × Text) → List (Text × Text), (∀ l, (range l).Perm l) →
      (Stock.handleAll range {} hs).room = room := by
  intro room
  have tracked : room = (Handling.pasts hs).map Inventory.ofPast :=
    Storeroom.handleAll_eq (List.map_nil).symm hs
  have valid : ∀ a ∈ room, a.Valid := by
    intro a member
    rw [tracked] at member
    obtain ⟨past, -, rfl⟩ := List.mem_map.mp member
    exact Inventory.valid_ofPast past
  have same : ∀ a ∈ room, ∀ b ∈ room,
      (a.sameItems b = true ↔ ∀ item, a.has item = b.has item) :=
    fun a first b second => (valid a first).sameItems_iff_has (valid b second)
  refine ⟨?_, same, ?_, ?_, ?_, ?_, ?_⟩
  · intro n inv here
    rw [tracked, List.getElem?_map] at here
    obtain ⟨past, stands, rfl⟩ := Option.map_eq_some_iff.mp here
    exact ⟨past, stands, Inventory.accounts_ofPast past⟩
  · intro a member
    exact (same a member a member).mpr fun _ => rfl
  · intro a first b second equal
    exact (same b second a first).mpr fun item => ((same a first b second).mp equal item).symm
  · intro a first b second c third equal also
    apply (same a first c third).mpr
    intro item
    exact ((same a first b second).mp equal item).trans ((same b second c third).mp also item)
  · intro n inv here copied
    have made : copied = room ++ [inv] := by simp [copied, Storeroom.handle, here]
    have inside : n < room.length := (List.getElem?_eq_some_iff.mp here).1
    refine ⟨by simp [made], by simpa [made, List.getElem?_append_left inside] using here, ?_⟩
    intro k held there more elsewhere
    exact Storeroom.getElem?_handleAll there elsewhere
  · intro range ranges
    exact (Stock.handleAll_eq ranges Stock.separate_empty hs).2

/-- A copy loses a lamp and gets it back in another spelling; the original keeps it as it was. -/
theorem inventories_are_folded_sets_lamp :
    let made : List Handling := [.make ["Rope", "LAMP", "rope"]]
    let later : List Handling := [.change 1 (.lose "lamp" .start), .change 1 (.get "Lamp" .start)]
    let room := Storeroom.handleAll [] made
    let after := (room.handle (.copy 0)).handleAll later
    let original : Inventory := ⟨[("lamp", "LAMP"), ("rope", "Rope")]⟩
    let other : Inventory := ⟨[("lamp", "Lamp"), ("rope", "Rope")]⟩
    room = [original] ∧ after = [original, other] ∧ after[0]? = some original ∧
      (∃ past, (Handling.pasts (made ++ .copy 0 :: later))[1]? = some past ∧
        other.Accounts past) ∧
      original.sameItems other = true ∧ other.sameItems original = true ∧
      (Stock.handleAll List.reverse {} (made ++ .copy 0 :: later)).room = [original, other] := by
  intro made later room after original other
  have start : room = [original] := by decide +kernel
  have final : Storeroom.handleAll [] (made ++ .copy 0 :: later) = [original, other] := by
    decide +kernel
  have whole : Storeroom.handleAll [] (made ++ .copy 0 :: later) = after := List.foldl_append
  have equal : original.sameItems other = true := by decide +kernel
  obtain ⟨-, -, -, -, -, copies, -⟩ := inventories_are_folded_sets made
  obtain ⟨-, here, stays⟩ := copies 0 original (congrArg (·[0]?) start)
  have kept := stays 0 original here later (by simp [later])
  obtain ⟨accounts, -, -, symmetric, -, -, referred⟩ :=
    inventories_are_folded_sets (made ++ .copy 0 :: later)
  have reverse := symmetric original (by simp [final]) other (by simp [final]) equal
  exact ⟨start, whole ▸ final, kept, accounts 1 other (congrArg (·[1]?) final), equal, reverse,
    (referred List.reverse List.reverse_perm).trans final⟩

end Gamebook
