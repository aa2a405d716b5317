import Gamebook.Proofs.Inventory.Effects
import Gamebook.Session

/-! # Inventories by reference

An inventory refers to the table in which it keeps its items, and is changed in its place there.
Inventories that refer to one table share their fate. To copy an inventory is to fill a new table with
the entries of the old one, in whatever order they come up. So no two inventories ever share a table
(`Stock.Separate`), and inventories by reference are what inventories by value are. In the same way a
scene is entered: its effects are run on a copy, which takes the place of the original in the end.
-/

namespace Gamebook

/-- What is done in a storeroom. -/
inductive Handling where
  /-- Makes an inventory of items. -/
  | make (items : List Text)
  /-- Adds an item to an inventory or removes one from it. -/
  | change (n : Nat) (e : Effect)
  /-- Makes another inventory that holds the same. -/
  | copy (n : Nat)
  deriving DecidableEq, Repr

/-- Inventories that exist at the same time, each known by its number. -/
abbrev Storeroom := List Inventory

namespace Storeroom

/-- The inventories after a handling. A new one has the next number. -/
def handle (room : Storeroom) : Handling → Storeroom
  | .make items => room ++ [.ofItems items]
  | .change n e => room.modify n (·.apply e)
  | .copy n => room ++ room[n]?.toList

def handleAll (room : Storeroom) (hs : List Handling) : Storeroom :=
  hs.foldl handle room

end Storeroom

/-! ## By reference -/

/-- The inventory with an entry under a key, whatever was there. -/
def Inventory.assign (inv : Inventory) (entry : Text × Text) : Inventory :=
  ⟨insertHeld entry.1 entry.2 (inv.held.filter fun other => other.1 ≠ entry.1)⟩

/-- Inventories by reference. -/
structure Stock where
  tables : List Inventory := []
  /-- The table of each inventory. -/
  refs : List Nat := []

namespace Stock

def table (s : Stock) (t : Nat) : Inventory :=
  s.tables[t]?.getD {}

def put (s : Stock) (t : Nat) (inv : Inventory) : Stock :=
  { s with tables := s.tables.set t inv }

/-- The stock with one more table. -/
def grown (s : Stock) (inv : Inventory) : Stock :=
  { s with tables := s.tables ++ [inv] }

/-- A new table, with nothing in it. -/
def new (s : Stock) : Nat × Stock :=
  (s.tables.length, s.grown {})

/-- Adds an item to a table or removes one from it, and says whether that changed anything. -/
def effect (s : Stock) (t : Nat) : Effect → Bool × Stock
  | .get item _ =>
    if (s.table t).has item then (false, s) else (true, s.put t ((s.table t).insert item))
  | .lose item _ =>
    if (s.table t).has item then (true, s.put t ((s.table t).erase item)) else (false, s)

/-- Runs effects on a table in turn, and says which of them changed anything. -/
def effects (s : Stock) (t : Nat) : List Effect → List Effect × Stock
  | [] => ([], s)
  | e :: rest =>
    let (changed, s) := s.effect t e
    let (others, s) := s.effects t rest
    (if changed then e :: others else others, s)

/-- A new table with the entries of another one. The entries come up in the order that `range` gives
    them. -/
def clone (range : List (Text × Text) → List (Text × Text)) (s : Stock) (t : Nat) : Nat × Stock :=
  let (c, s') := s.new
  (c, (range (s.table t).held).foldl (fun s entry => s.put c ((s.table c).assign entry)) s')

/-- An inventory with a table. -/
def name (s : Stock) (t : Nat) : Stock :=
  { s with refs := s.refs ++ [t] }

/-- The inventories after a handling. -/
def handle (range : List (Text × Text) → List (Text × Text)) (s : Stock) : Handling → Stock
  | .make items =>
    let (t, s) := s.new
    (s.effects t (items.map (.get · .start))).2.name t
  | .change n e =>
    match s.refs[n]? with
    | some t => (s.effect t e).2
    | none => s
  | .copy n =>
    match s.refs[n]? with
    | some t =>
      let (c, s) := s.clone range t
      s.name c
    | none => s

def handleAll (range : List (Text × Text) → List (Text × Text)) (s : Stock) (hs : List Handling) :
    Stock :=
  hs.foldl (handle range) s

/-- What is held by each inventory. -/
def room (s : Stock) : Storeroom :=
  s.refs.map s.table

end Stock

/-! ## Copies -/

namespace Inventory

variable {inv : Inventory} {held entries : List (Text × Text)} {key item : Text}

theorem perm_insertHeld (absent : key ∉ held.map Prod.fst) :
    (insertHeld key item held).Perm ((key, item) :: held) := by
  induction held with
  | nil => exact .refl _
  | cons first rest ih =>
    rw [List.map_cons, List.mem_cons, not_or] at absent
    obtain ⟨differs, further⟩ := absent
    unfold insertHeld
    rw [if_neg (Ne.symm differs)]
    split
    · exact .refl _
    · exact ((ih further).cons first).trans (.swap ..)

/-- A table that is filled with entries under different keys holds these entries. -/
theorem perm_foldl_assign (distinct : ((entries ++ inv.held).map Prod.fst).Nodup) :
    (entries.foldl assign inv).held.Perm (entries ++ inv.held) := by
  induction entries generalizing inv with
  | nil => exact .refl _
  | cons entry rest ih =>
    rw [List.cons_append, List.map_cons, List.nodup_cons] at distinct
    obtain ⟨apart, others⟩ := distinct
    have absent : entry.1 ∉ inv.held.map Prod.fst := by
      intro member
      rw [List.map_append, List.mem_append] at apart
      exact apart (.inr member)
    have nothing : inv.held.filter (fun other => other.1 ≠ entry.1) = inv.held := by
      rw [List.filter_eq_self]
      intro other member
      have differs : other.1 ≠ entry.1 := by
        intro same
        exact absent (same ▸ List.mem_map_of_mem member)
      simpa using differs
    have assigned : (inv.assign entry).held.Perm (entry :: inv.held) := by
      rw [assign, nothing]
      exact perm_insertHeld absent
    have moved : (rest ++ (inv.assign entry).held).Perm (entry :: (rest ++ inv.held)) :=
      (assigned.append_left rest).trans List.perm_middle
    refine (ih ?_).trans moved
    rw [(moved.map Prod.fst).nodup_iff, List.map_cons, List.nodup_cons]
    exact ⟨apart, others⟩

theorem Ordered.foldl_assign (ordered : Ordered inv.held) (entries : List (Text × Text)) :
    Ordered (entries.foldl assign inv).held := by
  induction entries generalizing inv with
  | nil => exact ordered
  | cons entry rest ih =>
    have others : Ordered (inv.held.filter fun other => other.1 ≠ entry.1) := ordered.filter _
    exact ih (others.insertHeld entry.1 entry.2)

theorem Ordered.nodup (ordered : Ordered held) : (held.map Prod.fst).Nodup := by
  refine List.pairwise_map.mpr (ordered.imp ?_)
  intro first second before same
  rw [same, Text.precedes_irrefl] at before
  cases before

/-- The order in which the entries of a table come up does not matter to a copy. -/
theorem Valid.foldl_assign_of_perm (valid : inv.Valid) (perm : entries.Perm inv.held) :
    entries.foldl assign {} = inv := by
  have distinct : ((entries ++ ({} : Inventory).held).map Prod.fst).Nodup := by
    rw [List.append_nil, (perm.map Prod.fst).nodup_iff]
    exact valid.ordered.nodup
  have same : (entries.foldl assign {}).held.Perm inv.held := by
    have filled := perm_foldl_assign distinct
    rw [List.append_nil] at filled
    exact filled.trans perm
  have ordered := valid_empty.ordered.foldl_assign entries
  have equal : (entries.foldl assign {}).held = inv.held := by
    refine same.eq_of_pairwise ?_ ordered valid.ordered
    intro first second _ _ before after
    have loop := Text.precedes_trans before after
    rw [Text.precedes_irrefl] at loop
    cases loop
  exact congrArg Inventory.mk equal

end Inventory

/-! ## Tables -/

namespace Stock

open Inventory

variable {s : Stock} {t u n : Nat} {inv other : Inventory}

theorem table_put (inside : t < s.tables.length) :
    (s.put t inv).table u = if u = t then inv else s.table u := by
  unfold table put
  by_cases here : u = t
  · simp [here, inside]
  · simp [here, List.getElem?_set_ne (Ne.symm here)]

theorem put_put : (s.put t inv).put t other = s.put t other := by
  simp [put, List.set_set]

theorem put_table (inside : t < s.tables.length) : s.put t (s.table t) = s := by
  simp [put, table, inside]

theorem length_put : (s.put t inv).tables.length = s.tables.length :=
  List.length_set

theorem put_grown : (s.grown inv).put s.tables.length other = s.grown other := by
  simp [put, grown]

theorem table_grown_last : (s.grown inv).table s.tables.length = inv := by
  simp [table, grown]

theorem table_grown (inside : t < s.tables.length) : (s.grown inv).table t = s.table t := by
  simp [table, grown, List.getElem?_append_left inside]

/-- An effect changes what it says it does, in its place. -/
theorem effect_eq (inside : t < s.tables.length) (valid : (s.table t).Valid) (e : Effect) :
    s.effect t e = ((s.table t).changes e, s.put t ((s.table t).apply e)) := by
  have idle (none : (s.table t).changes e = false) : s.put t ((s.table t).apply e) = s := by
    rw [valid.apply_of_not_changes none, put_table inside]
  cases e with
  | get item pos =>
    by_cases held : (s.table t).has item
    · have none : (s.table t).changes (.get item pos) = false := by simp [changes, held]
      rw [effect, if_pos held, none, idle none]
    · rw [effect, if_neg held]
      simp [changes, held, Inventory.apply]
  | lose item pos =>
    by_cases held : (s.table t).has item
    · rw [effect, if_pos held]
      simp [changes, held, Inventory.apply]
    · have none : (s.table t).changes (.lose item pos) = false := by simp [changes, held]
      rw [effect, if_neg held, none, idle none]

theorem effects_eq (inside : t < s.tables.length) (valid : (s.table t).Valid)
    (es : List Effect) :
    s.effects t es = (((s.table t).applyAll es).2, s.put t ((s.table t).applyAll es).1) := by
  induction es generalizing s with
  | nil => rw [effects, applyAll, put_table inside]
  | cons e rest ih =>
    have here : (s.put t ((s.table t).apply e)).table t = (s.table t).apply e := by
      rw [table_put inside, if_pos rfl]
    have later := ih (s := s.put t ((s.table t).apply e)) (by rwa [length_put])
      (by rw [here]; exact valid.apply e)
    rw [effects, effect_eq inside valid e]
    simp only [later, here, put_put, applyAll]

theorem fill_eq (inside : t < s.tables.length) (entries : List (Text × Text)) :
    entries.foldl (fun s entry => s.put t ((s.table t).assign entry)) s =
      s.put t (entries.foldl assign (s.table t)) := by
  induction entries generalizing s with
  | nil => exact (put_table inside).symm
  | cons entry rest ih =>
    rw [List.foldl_cons, ih (by rwa [length_put]), table_put inside, if_pos rfl, put_put,
      List.foldl_cons]

/-- A copy has a table of its own, with what the original holds. -/
theorem clone_eq {range : List (Text × Text) → List (Text × Text)} (ranges : ∀ l, (range l).Perm l)
    (valid : (s.table t).Valid) :
    s.clone range t = (s.tables.length, s.grown (s.table t)) := by
  have inside : s.tables.length < (s.grown {}).tables.length := by simp [grown]
  have filled := fill_eq inside (range (s.table t).held)
  rw [table_grown_last, valid.foldl_assign_of_perm (ranges _), put_grown] at filled
  exact congrArg (Prod.mk s.tables.length) filled

/-! ## Inventories -/

/-- That every inventory has a table of its own. -/
structure Separate (s : Stock) : Prop where
  distinct : s.refs.Nodup
  inside : ∀ t ∈ s.refs, t < s.tables.length
  valid : ∀ inv ∈ s.tables, inv.Valid

theorem separate_empty : Separate {} where
  distinct := List.nodup_nil
  inside := by simp
  valid := by simp

theorem getElem?_room : s.room[n]? = s.refs[n]?.map s.table :=
  List.getElem?_map ..

/-- What becomes of a table is seen by all inventories that refer to it. -/
theorem getElem?_room_put (inside : t < s.tables.length) :
    (s.put t inv).room[n]? = s.refs[n]?.map fun u => if u = t then inv else s.table u := by
  rw [getElem?_room]
  change s.refs[n]?.map _ = _
  congr 1
  funext u
  exact table_put inside

namespace Separate

theorem valid_table (separate : s.Separate) (t : Nat) : (s.table t).Valid := by
  unfold table
  cases here : s.tables[t]? with
  | none => exact valid_empty
  | some inv => exact separate.valid inv (List.mem_of_getElem? here)

theorem put (separate : s.Separate) (valid : inv.Valid) (t : Nat) : (s.put t inv).Separate where
  distinct := separate.distinct
  inside u member := by
    rw [length_put]
    exact separate.inside u member
  valid := by
    intro other member
    rcases List.mem_or_eq_of_mem_set member with before | rfl
    · exact separate.valid other before
    · exact valid

theorem grown (separate : s.Separate) (valid : inv.Valid) : (s.grown inv).Separate where
  distinct := separate.distinct
  inside t member := by
    have before := separate.inside t member
    simp only [Stock.grown, List.length_append, List.length_singleton]
    omega
  valid := by
    intro other member
    rcases List.mem_append.mp member with before | new
    · exact separate.valid other before
    · rw [List.mem_singleton.mp new]
      exact valid

/-- A new inventory with a new table shares it with no other. -/
theorem named (separate : s.Separate) (valid : inv.Valid) :
    ((s.grown inv).name s.tables.length).Separate := by
  have more := separate.grown valid
  refine ⟨?_, ?_, more.valid⟩
  · refine List.nodup_append.mpr ⟨separate.distinct, List.nodup_singleton _, ?_⟩
    rintro t before u new rfl
    have inside := separate.inside t before
    rw [List.mem_singleton.mp new] at inside
    exact Nat.lt_irrefl _ inside
  · intro t member
    rcases List.mem_append.mp member with before | new
    · exact more.inside t before
    · rw [List.mem_singleton.mp new]
      simp [name, Stock.grown]

theorem room_grown (separate : s.Separate) : (s.grown inv).room = s.room := by
  apply List.map_congr_left
  intro t member
  exact table_grown (separate.inside t member)

theorem room_named (separate : s.Separate) :
    ((s.grown inv).name s.tables.length).room = s.room ++ [inv] := by
  have before : (s.grown inv).room = s.room := separate.room_grown
  rw [← before]
  refine List.map_append.trans (congrArg (s.grown inv).room.append ?_)
  exact congrArg (· :: []) table_grown_last

/-- A change of one table is a change of one inventory. -/
theorem room_put (separate : s.Separate) (here : s.refs[n]? = some t) (f : Inventory → Inventory) :
    (s.put t (f (s.table t))).room = s.room.modify n f := by
  have inside := separate.inside t (List.mem_of_getElem? here)
  apply List.ext_getElem?
  intro k
  rw [List.getElem?_modify, getElem?_room_put inside, getElem?_room]
  cases there : s.refs[k]? with
  | none => rfl
  | some u =>
    rw [Option.map_some, Option.map_some, Option.map_eq_map, Option.map_some]
    by_cases same : n = k
    · subst same
      rw [here] at there
      cases there
      rw [if_pos rfl, if_pos rfl]
    · have apart : u ≠ t := by
        rintro rfl
        exact same ((List.getElem?_inj (List.getElem?_eq_some_iff.mp here).1 separate.distinct).mp
          (here.trans there.symm))
      rw [if_neg apart, if_neg same]

end Separate

section Handle

variable {range : List (Text × Text) → List (Text × Text)}

theorem handle_make (items : List Text) :
    s.handle range (.make items) = (s.grown (ofItems items)).name s.tables.length := by
  have inside : s.tables.length < (s.grown {}).tables.length := by simp [grown]
  have empty : ((s.grown {}).table s.tables.length).Valid := by
    rw [table_grown_last]
    exact valid_empty
  have made := effects_eq inside empty (items.map (Effect.get · .start))
  have filled : (items.map (Effect.get · .start)).foldl Inventory.apply {} = ofItems items := by
    rw [List.foldl_map]
    rfl
  rw [table_grown_last, put_grown, applyAll_fst, filled] at made
  exact congrArg (fun r : List Effect × Stock => r.2.name s.tables.length) made

theorem handle_change (separate : s.Separate) (here : s.refs[n]? = some t) (e : Effect) :
    s.handle range (.change n e) = s.put t ((s.table t).apply e) := by
  have inside := separate.inside t (List.mem_of_getElem? here)
  rw [handle, here]
  exact congrArg Prod.snd (effect_eq inside (separate.valid_table t) e)

theorem handle_copy (ranges : ∀ l, (range l).Perm l) (separate : s.Separate)
    (here : s.refs[n]? = some t) :
    s.handle range (.copy n) = (s.grown (s.table t)).name s.tables.length := by
  rw [handle, here]
  exact congrArg (fun r : Nat × Stock => r.2.name r.1) (clone_eq ranges (separate.valid_table t))

/-- What is handled by reference is handled by value, and no table comes to be shared. -/
theorem handle_eq (ranges : ∀ l, (range l).Perm l) (separate : s.Separate) (h : Handling) :
    (s.handle range h).Separate ∧ (s.handle range h).room = s.room.handle h := by
  cases h with
  | make items =>
    rw [handle_make]
    exact ⟨separate.named (valid_ofItems items), separate.room_named⟩
  | change n e =>
    have held : s.room[n]? = s.refs[n]?.map s.table := getElem?_room
    cases here : s.refs[n]? with
    | none =>
      rw [here] at held
      have outside : s.room.length ≤ n := List.getElem?_eq_none_iff.mp held
      have idle : s.handle range (.change n e) = s := by rw [handle, here]
      rw [idle]
      exact ⟨separate, (List.modify_eq_self outside).symm⟩
    | some t =>
      rw [handle_change separate here]
      exact ⟨separate.put ((separate.valid_table t).apply e) t,
        separate.room_put here (·.apply e)⟩
  | copy n =>
    have held : s.room[n]? = s.refs[n]?.map s.table := getElem?_room
    cases here : s.refs[n]? with
    | none =>
      rw [here] at held
      have idle : s.handle range (.copy n) = s := by rw [handle, here]
      rw [idle]
      exact ⟨separate, by simp [Storeroom.handle, held]⟩
    | some t =>
      rw [here] at held
      rw [handle_copy ranges separate here]
      refine ⟨separate.named (separate.valid_table t), separate.room_named.trans ?_⟩
      simp [Storeroom.handle, held]

theorem handleAll_eq (ranges : ∀ l, (range l).Perm l) (separate : s.Separate)
    (hs : List Handling) :
    (s.handleAll range hs).Separate ∧ (s.handleAll range hs).room = s.room.handleAll hs := by
  induction hs generalizing s with
  | nil => exact ⟨separate, rfl⟩
  | cons h hs ih =>
    obtain ⟨still, same⟩ := handle_eq ranges separate h
    obtain ⟨last, rooms⟩ := ih still
    refine ⟨last, rooms.trans ?_⟩
    rw [same]
    rfl

end Handle

-- An inventory that refers to the table of another one is no copy: both lose the lamp.
example :
    let s : Stock := { tables := [⟨[("lamp", "Lamp")]⟩], refs := [0, 0] }
    (s.handle id (.change 1 (.lose "LAMP" .start))).room = [{}, {}] := by
  decide +kernel

/-! ## Entering a scene -/

/-- Runs effects on a copy of a table, and says which of them changed anything. -/
def rehearse (range : List (Text × Text) → List (Text × Text)) (s : Stock) (t : Nat)
    (es : List Effect) : List Effect × Nat × Stock :=
  let (c, s) := s.clone range t
  let (changed, s) := s.effects c es
  (changed, c, s)

/-- Gives an inventory another table. -/
def commit (s : Stock) (n c : Nat) : Stock :=
  { s with refs := s.refs.set n c }

theorem rehearse_eq {range : List (Text × Text) → List (Text × Text)}
    (ranges : ∀ l, (range l).Perm l) (valid : (s.table t).Valid) (es : List Effect) :
    s.rehearse range t es =
      (((s.table t).applyAll es).2, s.tables.length, s.grown ((s.table t).applyAll es).1) := by
  have inside : s.tables.length < (s.grown (s.table t)).tables.length := by simp [grown]
  have run := effects_eq inside (by rw [table_grown_last]; exact valid) es
  rw [table_grown_last, put_grown] at run
  rw [rehearse, clone_eq ranges valid]
  simp only [run]

/-- A new table that is committed is shared with no other inventory. -/
theorem Separate.commit (separate : s.Separate) (valid : inv.Valid) (n : Nat) :
    ((s.grown inv).commit n s.tables.length).Separate := by
  have more := separate.grown valid
  refine ⟨separate.distinct.set fun member => ?_, ?_, more.valid⟩
  · exact Nat.lt_irrefl _ (separate.inside _ member)
  · intro t member
    rcases List.mem_or_eq_of_mem_set member with before | rfl
    · exact more.inside t before
    · simp [Stock.commit, Stock.grown]

theorem Separate.room_commit (separate : s.Separate) :
    ((s.grown inv).commit n s.tables.length).room = s.room.modify n fun _ => inv := by
  apply List.ext_getElem?
  intro k
  rw [List.getElem?_modify, getElem?_room, getElem?_room]
  change ((s.refs.set n s.tables.length)[k]?).map (s.grown inv).table = _
  rw [List.getElem?_set']
  cases there : s.refs[k]? with
  | none => split <;> rfl
  | some u =>
    have inside := separate.inside u (List.mem_of_getElem? there)
    by_cases same : n = k
    · simp [same, table_grown_last]
    · simp [same, table_grown inside]

/-- Nobody sees the effects before they are committed, and then they are seen in one inventory. -/
theorem room_rehearse {range : List (Text × Text) → List (Text × Text)}
    (ranges : ∀ l, (range l).Perm l) (separate : s.Separate) (here : s.refs[n]? = some t)
    (es : List Effect) :
    let r := s.rehearse range t es
    r.2.2.room = s.room ∧ (r.2.2.commit n r.2.1).Separate ∧
      (r.2.2.commit n r.2.1).room = s.room.modify n fun inv => (inv.applyAll es).1 := by
  intro r
  have run : r = _ := rehearse_eq ranges (separate.valid_table t) es
  have valid : ((s.table t).applyAll es).1.Valid := by
    rw [applyAll_fst]
    exact (separate.valid_table t).foldl_apply es
  rw [run]
  refine ⟨separate.room_grown, separate.commit valid n, separate.room_commit.trans ?_⟩
  have held : s.room[n]? = some (s.table t) := by rw [getElem?_room, here]; rfl
  apply List.ext_getElem?
  intro k
  rw [List.getElem?_modify, List.getElem?_modify]
  by_cases same : n = k
  · simp [← same, held]
  · simp [same]

end Stock

/-- A scene is entered with what its effects make of a copy of the inventory. -/
theorem Play.enter_eq_rehearse {σ τ : Type} [Crew τ]
    {range : List (Text × Text) → List (Text × Text)} (ranges : ∀ l, (range l).Perm l) {s : Stock}
    (separate : s.Separate) {t : Nat} (h : Host σ) (found : Found) (p : Play σ τ)
    (held : s.table t = p.session.inventory) :
    let r := s.rehearse range t found.scene.effects
    p.enter h found =
      unlessHalted h { p with session := { p.session with stage := .presenting } }
        (receive h found (r.2.2.table r.2.1) r.1) := by
  intro r
  have run : r = _ := Stock.rehearse_eq ranges (separate.valid_table t) found.scene.effects
  rw [run, Stock.table_grown_last, held]
  rfl

end Gamebook
