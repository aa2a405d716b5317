import Gamebook.Proofs.Inventory
import Gamebook.Proofs.Text.Order
import Mathlib.Data.List.DropRight
import Mathlib.Data.List.Induction

/-! # What effects do to an inventory

An inventory in order (`Inventory.Valid`) is given by the spellings under which it remembers folded
items, so it is enough to follow one folded item through a list of effects. Only the effects that
name it matter. If none of them takes it away, it keeps the spelling with which it was held or gets
that of the first of them; otherwise what follows the last loss decides. This depends on what was
held before in so weak a way that the same effects change nothing when they are applied again.
-/

namespace Gamebook

namespace Effect

/-- Whether an effect gives an item rather than takes it. -/
def isGet : Effect → Bool
  | .get _ _ => true
  | .lose _ _ => false

/-- Whether an effect names the item with a folded form. -/
def names (e : Effect) (key : Text) : Bool :=
  e.item.fold = key

/-- The spelling of the item with a folded form, if it is held, after an effect. -/
def onSpelling (key : Text) (before : Option Text) : Effect → Option Text
  | .get item _ => if item.fold = key then some (before.getD item) else before
  | .lose item _ => if item.fold = key then none else before

end Effect

/-- How the spelling of an item, if it is held, comes out of the effects that name the item. -/
inductive Remembers : (before : Option Text) → List Effect → (after : Option Text) → Prop where
  /-- An item that is not lost keeps the spelling with which it was held. -/
  | kept {spelling : Text} {named : List Effect} (gets : ∀ e ∈ named, e.isGet) :
    Remembers (some spelling) named (some spelling)
  /-- An item that was not held and is not lost gets the first spelling with which it comes in. -/
  | gained {named : List Effect} (gets : ∀ e ∈ named, e.isGet) :
    Remembers none named (named.head?.map Effect.item)
  /-- An item that is lost gets the first spelling with which it comes in after the last loss. -/
  | lost {before : Option Text} {front gets : List Effect} (item : Text) (pos : Pos)
      (since : ∀ e ∈ gets, e.isGet) :
    Remembers before (front ++ .lose item pos :: gets) (gets.head?.map Effect.item)

namespace Inventory

/-- The spelling with which an item is remembered, if it is held. -/
def spelling? (inv : Inventory) (item : Text) : Option Text :=
  inv.held.lookup item.fold

/-- That held items are in strictly increasing order of their keys. -/
def Ordered (held : List (Text × Text)) : Prop :=
  held.Pairwise fun a b => a.1.precedes b.1

/-- That every item is kept under its own folded form, and the items in increasing order. -/
structure Valid (inv : Inventory) : Prop where
  keyed : inv.Keyed
  ordered : Ordered inv.held

/-! ## Held items in order -/

section Held

variable {held : List (Text × Text)} {key item k spelling : Text}

theorem lookup_cons_eq_ite (entry : Text × Text) (rest : List (Text × Text)) (k : Text) :
    List.lookup k (entry :: rest) = if k = entry.1 then some entry.2 else rest.lookup k := by
  obtain ⟨key, spelling⟩ := entry
  by_cases here : k = key
  · simp [here]
  · have apart : (k == key) = false := by simp [here]
    rw [List.lookup_cons, apart, if_neg here]

theorem lookup_eq_none_of_precedes (first : ∀ entry ∈ held, key.precedes entry.1) :
    held.lookup key = none := by
  induction held with
  | nil => rfl
  | cons entry rest ih =>
    obtain ⟨before, later⟩ := List.forall_mem_cons.mp first
    have apart : key ≠ entry.1 := by
      rintro rfl
      rw [Text.precedes_irrefl] at before
      cases before
    rw [lookup_cons_eq_ite, if_neg apart, ih later]

/-- Nothing is found under a key that comes before the first one. -/
theorem Ordered.lookup_of_precedes {first : Text × Text} {rest : List (Text × Text)}
    (ordered : Ordered (first :: rest)) (smaller : key.precedes first.1) :
    List.lookup key (first :: rest) = none := by
  apply lookup_eq_none_of_precedes
  intro entry member
  rcases List.mem_cons.mp member with rfl | further
  · exact smaller
  · exact Text.precedes_trans smaller ((List.pairwise_cons.mp ordered).1 entry further)

/-- Putting an item in changes what is found under its key only if nothing is. -/
theorem lookup_insertHeld (ordered : Ordered held) (key item k : Text) :
    (insertHeld key item held).lookup k =
      if k = key then some ((held.lookup key).getD item) else held.lookup k := by
  induction held with
  | nil => simp [insertHeld]
  | cons first rest ih =>
    obtain ⟨before, later⟩ := List.pairwise_cons.mp ordered
    unfold insertHeld
    split
    · next same =>
      subst same
      by_cases here : k = first.1
      · simp [lookup_cons_eq_ite, here]
      · simp [here]
    · next differs =>
      have other : ¬key = first.1 := Ne.symm differs
      split
      · next smaller =>
        have absent := ordered.lookup_of_precedes smaller
        rw [absent, lookup_cons_eq_ite]
        rfl
      · by_cases here : k = first.1
        · simp [lookup_cons_eq_ite, here, differs]
        · simp [lookup_cons_eq_ite, here, ih later, other]

/-- Taking an item out leaves everything under other keys. -/
theorem lookup_filter_ne (key k : Text) :
    (held.filter fun entry => entry.1 ≠ key).lookup k =
      if k = key then none else held.lookup k := by
  induction held with
  | nil => simp
  | cons first rest ih =>
    by_cases same : first.1 = key
    · by_cases here : k = key
      · simpa [same, here] using ih
      · simpa [same, here, lookup_cons_eq_ite] using ih
    · by_cases here : k = first.1
      · simp [lookup_cons_eq_ite, here, same]
      · simpa [lookup_cons_eq_ite, here, same] using ih

theorem Ordered.insertHeld (ordered : Ordered held) (key item : Text) :
    Ordered (insertHeld key item held) := by
  induction held with
  | nil => exact List.pairwise_singleton ..
  | cons first rest ih =>
    obtain ⟨before, later⟩ := List.pairwise_cons.mp ordered
    unfold Inventory.insertHeld
    split
    · exact ordered
    · next differs =>
      split
      · next smaller =>
        apply List.pairwise_cons.mpr
        refine ⟨fun entry member => ?_, ordered⟩
        rcases List.mem_cons.mp member with rfl | further
        · exact smaller
        · exact Text.precedes_trans smaller (before entry further)
      · next notSmaller =>
        have greater : first.1.precedes key = true :=
          (Text.precedes_total differs).resolve_right notSmaller
        apply List.pairwise_cons.mpr
        refine ⟨fun entry member => ?_, ih later⟩
        rcases mem_insertHeld member with rfl | further
        · exact greater
        · exact before entry further

/-- Held items in order are given by what is found under each key. -/
theorem Ordered.ext {others : List (Text × Text)} (ordered : Ordered held) (also : Ordered others)
    (same : ∀ k, held.lookup k = others.lookup k) : held = others := by
  induction held generalizing others with
  | nil =>
    cases others with
    | nil => rfl
    | cons other more => simpa [lookup_cons_eq_ite] using same other.1
  | cons first rest ih =>
    cases others with
    | nil => simpa [lookup_cons_eq_ite] using same first.1
    | cons other more =>
      have keys : first.1 = other.1 := by
        by_contra differ
        -- The smaller one of the two keys would be missing on the other side.
        rcases Text.precedes_total differ with smaller | smaller
        · have absent := (same first.1).trans (also.lookup_of_precedes smaller)
          simp [lookup_cons_eq_ite] at absent
        · have absent := (same other.1).symm.trans (ordered.lookup_of_precedes smaller)
          simp [lookup_cons_eq_ite] at absent
      have spellings : first.2 = other.2 := by
        simpa [lookup_cons_eq_ite, keys] using same other.1
      obtain ⟨before, later⟩ := List.pairwise_cons.mp ordered
      obtain ⟨before', later'⟩ := List.pairwise_cons.mp also
      have rests : rest = more := by
        apply ih later later'
        intro k
        by_cases here : k = first.1
        · rw [here, lookup_eq_none_of_precedes before, keys, lookup_eq_none_of_precedes before']
        · simpa [lookup_cons_eq_ite, here, ← keys] using same k
      rw [Prod.ext keys spellings, rests]

end Held

/-! ## Inventories in order -/

section Valid

variable {inv other : Inventory}

theorem valid_empty : Valid {} :=
  ⟨keyed_empty, .nil⟩

theorem Valid.insert (valid : inv.Valid) (item : Text) : (inv.insert item).Valid :=
  ⟨valid.keyed.insert item, valid.ordered.insertHeld item.fold item⟩

theorem Valid.erase (valid : inv.Valid) (item : Text) : (inv.erase item).Valid :=
  ⟨valid.keyed.erase item, valid.ordered.filter _⟩

theorem Valid.apply (valid : inv.Valid) (e : Effect) : (inv.apply e).Valid := by
  cases e with
  | get item pos => exact valid.insert item
  | lose item pos => exact valid.erase item

theorem Valid.foldl_apply (valid : inv.Valid) (effects : List Effect) :
    (effects.foldl Inventory.apply inv).Valid := by
  induction effects generalizing inv with
  | nil => exact valid
  | cons e rest ih => exact ih (valid.apply e)

theorem Valid.foldl_insert (valid : inv.Valid) (items : List Text) :
    (items.foldl Inventory.insert inv).Valid := by
  induction items generalizing inv with
  | nil => exact valid
  | cons item rest ih => exact ih (valid.insert item)

/-- The inventory that a session starts with is in order. -/
theorem valid_ofItems (items : List Text) : (ofItems items).Valid :=
  valid_empty.foldl_insert items

theorem Valid.ext (valid : inv.Valid) (also : other.Valid)
    (same : ∀ k, inv.held.lookup k = other.held.lookup k) : inv = other := by
  have held := valid.ordered.ext also.ordered same
  obtain ⟨entries⟩ := inv
  obtain ⟨others⟩ := other
  exact congrArg Inventory.mk held

theorem has_eq_isSome (inv : Inventory) (item : Text) :
    inv.has item = (inv.spelling? item).isSome := by
  obtain ⟨held⟩ := inv
  simp only [has, spelling?]
  induction held with
  | nil => rfl
  | cons first rest ih =>
    rw [lookup_cons_eq_ite, List.any_cons, ih]
    by_cases here : first.1 = item.fold
    · simp [here]
    · simp [here, Ne.symm here]

theorem Valid.lookup_apply (valid : inv.Valid) (e : Effect) (key : Text) :
    (inv.apply e).held.lookup key = e.onSpelling key (inv.held.lookup key) := by
  cases e with
  | get item pos =>
    simp only [Inventory.apply, Inventory.insert, Effect.onSpelling,
      lookup_insertHeld valid.ordered, eq_comm (a := key)]
    split
    · next same => rw [same]
    · rfl
  | lose item pos =>
    simp only [Inventory.apply, Inventory.erase, Effect.onSpelling, lookup_filter_ne,
      eq_comm (a := key)]

theorem Valid.lookup_foldl_apply (valid : inv.Valid) (effects : List Effect) (key : Text) :
    (effects.foldl Inventory.apply inv).held.lookup key =
      effects.foldl (Effect.onSpelling key) (inv.held.lookup key) := by
  induction effects generalizing inv with
  | nil => rfl
  | cons e rest ih => rw [List.foldl_cons, List.foldl_cons, ih (valid.apply e), valid.lookup_apply]

end Valid

end Inventory

/-! ## One item through a list of effects -/

namespace Effect

theorem onSpelling_of_not_names {e : Effect} {key : Text} (other : ¬e.names key)
    (before : Option Text) : e.onSpelling key before = before := by
  have apart : ¬e.item.fold = key := by simpa [names] using other
  cases e with
  | get item pos => exact if_neg apart
  | lose item pos => exact if_neg apart

/-- Effects that do not name an item leave it alone. -/
theorem foldl_onSpelling_filter (key : Text) (effects : List Effect) (before : Option Text) :
    effects.foldl (onSpelling key) before =
      (effects.filter (·.names key)).foldl (onSpelling key) before := by
  induction effects generalizing before with
  | nil => rfl
  | cons e rest ih =>
    by_cases named : e.names key
    · rw [List.filter_cons, if_pos named, List.foldl_cons, List.foldl_cons, ih]
    · rw [List.filter_cons, if_neg named, List.foldl_cons, ih, onSpelling_of_not_names named]

/-- The spelling of an item, if it is held, after all the effects that name it. What was held before
    counts only if the item is not lost, and comes before all that is got since the last loss. -/
def remembered (before : Option Text) (named : List Effect) : Option Text :=
  (if named.all isGet then before else none).or ((named.rtakeWhile isGet).head?.map item)

theorem remembered_snoc_get (before : Option Text) (named : List Effect) (item : Text) (pos : Pos) :
    remembered before (named ++ [.get item pos]) = some ((remembered before named).getD item) := by
  have all : (named ++ [Effect.get item pos]).all isGet = named.all isGet := by simp [isGet]
  unfold remembered
  rw [all, List.rtakeWhile_concat_pos _ _ _ rfl]
  cases named.rtakeWhile isGet with
  | nil => cases (if named.all isGet then before else none) <;> rfl
  | cons e rest => cases (if named.all isGet then before else none) <;> rfl

theorem remembered_snoc_lose (before : Option Text) (named : List Effect) (item : Text)
    (pos : Pos) : remembered before (named ++ [.lose item pos]) = none := by
  simp [remembered, isGet]

theorem foldl_onSpelling {key : Text} {named : List Effect} (all : ∀ e ∈ named, e.names key)
    (before : Option Text) :
    named.foldl (onSpelling key) before = remembered before named := by
  -- From the end: a get fills in only what is missing, and a loss forgets all before it.
  induction named using List.reverseRecOn with
  | nil => simp [remembered]
  | append_singleton named e ih =>
    have earlier := ih fun other member => all other (List.mem_append_left _ member)
    have here : e.item.fold = key := by
      simpa [names] using all e (by simp)
    rw [List.foldl_concat, earlier]
    cases e with
    | get item pos =>
      rw [remembered_snoc_get]
      exact if_pos here
    | lose item pos =>
      rw [remembered_snoc_lose]
      exact if_pos here

/-- The same effects over again change nothing. -/
theorem remembered_remembered (before : Option Text) (named : List Effect) :
    remembered (remembered before named) named = remembered before named := by
  unfold remembered
  split
  · rw [Option.or_assoc, Option.or_self]
  · rfl

theorem remembers_remembered (before : Option Text) (named : List Effect) :
    Remembers before named (remembered before named) := by
  by_cases gets : ∀ e ∈ named, e.isGet
  · have none_lost : named.all isGet = true := List.all_eq_true.mpr gets
    rw [remembered, if_pos none_lost, List.rtakeWhile_eq_self_iff.mpr gets]
    cases before with
    | none => exact .gained gets
    | some spelling => exact .kept gets
  · have some_lost : ¬named.all isGet = true := fun all => gets (List.all_eq_true.mp all)
    have cut : named.rdropWhile isGet ≠ [] := fun nothing =>
      gets (List.rdropWhile_eq_nil_iff.mp nothing)
    have split := List.rdropWhile_append_rtakeWhile (p := isGet) (l := named)
    rw [← List.dropLast_append_getLast cut, List.append_assoc, List.singleton_append] at split
    rw [remembered, if_neg some_lost, Option.none_or]
    -- What stands before the gets at the end ends in a loss.
    cases last : (named.rdropWhile isGet).getLast cut with
    | get item pos => exact absurd (by rw [last]; rfl) (List.rdropWhile_last_not isGet named cut)
    | lose item pos =>
      rw [last] at split
      have since : ∀ e ∈ named.rtakeWhile isGet, e.isGet := fun e => List.mem_rtakeWhile_imp
      have lost : Remembers before
          ((named.rdropWhile isGet).dropLast ++ .lose item pos :: named.rtakeWhile isGet) _ :=
        .lost item pos since
      rwa [split] at lost

theorem isSome_remembered (before : Option Text) (named : List Effect) :
    (remembered before named).isSome =
      match named.getLast? with
      | some e => e.isGet
      | none => before.isSome := by
  induction named using List.reverseRecOn with
  | nil => simp [remembered]
  | append_singleton named e _ =>
    rw [List.getLast?_concat]
    cases e with
    | get item pos => rw [remembered_snoc_get]; rfl
    | lose item pos => rw [remembered_snoc_lose]; rfl

end Effect

namespace Inventory

variable {inv : Inventory}

/-- What effects leave under a key is given by those that name it. -/
theorem Valid.lookup_after (valid : inv.Valid) (effects : List Effect) (key : Text) :
    (effects.foldl Inventory.apply inv).held.lookup key =
      Effect.remembered (inv.held.lookup key) (effects.filter (·.names key)) := by
  rw [valid.lookup_foldl_apply, Effect.foldl_onSpelling_filter,
    Effect.foldl_onSpelling fun e member => (List.mem_filter.mp member).2]

/-- Nothing is changed by effects that have just been applied. -/
theorem Valid.foldl_apply_again (valid : inv.Valid) (effects : List Effect) :
    effects.foldl Inventory.apply (effects.foldl Inventory.apply inv) =
      effects.foldl Inventory.apply inv := by
  have after := valid.foldl_apply effects
  apply (after.foldl_apply effects).ext after
  intro key
  rw [after.lookup_after, valid.lookup_after, Effect.remembered_remembered]

theorem Valid.apply_of_not_changes (valid : inv.Valid) {e : Effect} (idle : inv.changes e = false) :
    inv.apply e = inv := by
  apply (valid.apply e).ext valid
  intro key
  rw [valid.lookup_apply]
  by_cases here : e.names key
  · have same : e.item.fold = key := by simpa [Effect.names] using here
    subst same
    cases e with
    | get item pos =>
      have held : (inv.spelling? item).isSome := by
        simpa [changes, has_eq_isSome] using idle
      obtain ⟨spelling, found⟩ := Option.isSome_iff_exists.mp held
      rw [spelling?] at found
      simp [Effect.onSpelling, Effect.item, found]
    | lose item pos =>
      have absent : inv.spelling? item = none := by
        simpa [changes, has_eq_isSome] using idle
      rw [spelling?] at absent
      simp [Effect.onSpelling, Effect.item, absent]
  · exact Effect.onSpelling_of_not_names here _

/-- Effects that change nothing can be left out. -/
theorem Valid.foldl_apply_changed (valid : inv.Valid) (effects : List Effect) :
    (inv.applyAll effects).2.foldl Inventory.apply inv = effects.foldl Inventory.apply inv := by
  induction effects generalizing inv with
  | nil => rfl
  | cons e rest ih =>
    have later := ih (valid.apply e)
    simp only [applyAll]
    split
    · exact later
    · next idle =>
      have same := valid.apply_of_not_changes (by simpa using idle)
      rw [same] at later
      rw [List.foldl_cons, same]
      exact later

end Inventory

end Gamebook
