import Gamebook.Proofs.Inventory
import Gamebook.Session

/-! # Scripts up to the spelling of items

The core of a script is what is left of it when positions are forgotten and items are folded. Of two
scripts with the same core, the one finds a scene exactly if the other does, and the scenes have the
same core again. What is done with the items of such scenes depends on the keys of an inventory
alone, so as long as the keys are the same the same branches are offered.
-/

namespace Gamebook

namespace Effect

/-- An effect wherever it stands and however its item is spelled. -/
def core : Effect → Effect
  | .get item _ => .get item.fold .start
  | .lose item _ => .lose item.fold .start

end Effect

def Condition.core : Condition → Condition
  | .has item => .has item.fold
  | .lacks item => .lacks item.fold

def Branch.core (b : Branch) : Branch :=
  { b with guard := b.guard.map Condition.core, pos := .start }

def Scene.core (s : Scene) : Scene where
  name := s.name
  pos := .start
  flavortext := s.flavortext
  effects := s.effects.map Effect.core
  branches := s.branches.map Branch.core

def Module.core (m : Module) : Module :=
  { m with pos := .start, scenes := m.scenes.map Scene.core }

def Script.core (s : Script) : Script :=
  { s with modules := s.modules.map Module.core }

def Found.core (found : Found) : Found :=
  ⟨found.address, found.module.core, found.scene.core⟩

def Offer.core (o : Offer) : Offer :=
  { o with branch := o.branch.core }

/-! ## Finding scenes -/

namespace Script

theorem module?_core (s : Script) (name : Text) :
    s.core.module? name = (s.module? name).map Module.core := by
  rw [module?, core, List.find?_map]
  rfl

theorem scene?_core (m : Module) (name : Text) :
    m.core.scene? name = (m.scene? name).map Scene.core := by
  rw [Module.scene?, Module.core, List.find?_map]
  rfl

/-- Scenes are found by their names, so the core of a script has the core of the scene. -/
theorem find_core (s : Script) (module scene : Text) :
    s.core.find module scene = (s.find module scene).map Found.core := by
  unfold find
  rw [module?_core]
  cases s.module? module with
  | none => rfl
  | some m =>
    dsimp only [Option.map_some]
    rw [scene?_core]
    cases m.scene? scene with
    | none => rfl
    | some found => rfl

end Script

/-! ## Items -/

namespace Inventory

/-- The folded forms under which items are held, in increasing order. -/
def keys (inv : Inventory) : List Text :=
  inv.held.map Prod.fst

theorem has_eq_keys (inv : Inventory) (item : Text) :
    inv.has item = inv.keys.any (· = item.fold) := by
  rw [has, keys, List.any_map]
  rfl

theorem keys_erase (inv : Inventory) (item : Text) :
    (inv.erase item).keys = inv.keys.filter (· ≠ item.fold) := by
  rw [erase, keys, keys, List.filter_map]
  rfl

theorem keys_insertHeld {held other : List (Text × Text)}
    (same : held.map Prod.fst = other.map Prod.fst) (key item spelling : Text) :
    (insertHeld key item held).map Prod.fst = (insertHeld key spelling other).map Prod.fst := by
  induction held generalizing other with
  | nil =>
    obtain rfl : other = [] := List.map_eq_nil_iff.mp same.symm
    rfl
  | cons first rest ih =>
    obtain ⟨k, s⟩ := first
    cases other with
    | nil => cases same
    | cons second more =>
      obtain ⟨k', s'⟩ := second
      obtain ⟨rfl, later⟩ := List.cons.inj same
      simp only [insertHeld]
      split
      · simp [later]
      · split
        · simp [later]
        · simp [ih later]

variable {a b : Inventory}

theorem keys_apply (same : a.keys = b.keys) {e e' : Effect} (alike : e.core = e'.core) :
    (a.apply e).keys = (b.apply e').keys ∧ a.changes e = b.changes e' := by
  cases e with
  | get item pos =>
    cases e' with
    | get other pos' =>
      have fold : item.fold = other.fold := by simpa [Effect.core] using alike
      refine ⟨?_, by simp only [changes, has_eq_keys, same, fold]⟩
      simp only [apply, insert, keys, fold]
      exact keys_insertHeld same _ _ _
    | lose => cases alike
  | lose item pos =>
    cases e' with
    | get => cases alike
    | lose other pos' =>
      have fold : item.fold = other.fold := by simpa [Effect.core] using alike
      refine ⟨?_, by simp only [changes, has_eq_keys, same, fold]⟩
      simp only [apply, keys_erase, same, fold]

theorem keys_applyAll (same : a.keys = b.keys) {es es' : List Effect}
    (alike : es.map Effect.core = es'.map Effect.core) :
    (a.applyAll es).1.keys = (b.applyAll es').1.keys ∧
      (a.applyAll es).2.map Effect.core = (b.applyAll es').2.map Effect.core := by
  induction es generalizing es' a b with
  | nil =>
    obtain rfl : es' = [] := List.map_eq_nil_iff.mp alike.symm
    exact ⟨same, rfl⟩
  | cons e rest ih =>
    cases es' with
    | nil => cases alike
    | cons e' rest' =>
      obtain ⟨here, later⟩ := List.cons.inj alike
      obtain ⟨applied, changes⟩ := keys_apply same here
      obtain ⟨after, changed⟩ := ih applied later
      refine ⟨after, ?_⟩
      simp only [applyAll, changes]
      split
      · simp only [List.map_cons, here, changed]
      · exact changed

theorem meets_core (same : a.keys = b.keys) {c c' : Condition} (alike : c.core = c'.core) :
    a.meets c = b.meets c' := by
  cases c with
  | has item =>
    cases c' with
    | has other =>
      have fold : item.fold = other.fold := by simpa [Condition.core] using alike
      simp only [meets, has_eq_keys, same, fold]
    | lacks => cases alike
  | lacks item =>
    cases c' with
    | has => cases alike
    | lacks other =>
      have fold : item.fold = other.fold := by simpa [Condition.core] using alike
      simp only [meets, has_eq_keys, same, fold]

theorem all_meets_core (same : a.keys = b.keys) {cs cs' : List Condition}
    (alike : cs.map Condition.core = cs'.map Condition.core) :
    cs.all a.meets = cs'.all b.meets := by
  induction cs generalizing cs' with
  | nil =>
    obtain rfl : cs' = [] := List.map_eq_nil_iff.mp alike.symm
    rfl
  | cons c rest ih =>
    cases cs' with
    | nil => cases alike
    | cons c' rest' =>
      obtain ⟨here, later⟩ := List.cons.inj alike
      rw [List.all_cons, List.all_cons, meets_core same here, ih later]

theorem keys_foldl_insert (same : a.keys = b.keys) {items items' : List Text}
    (alike : items.map Text.fold = items'.map Text.fold) :
    (items.foldl insert a).keys = (items'.foldl insert b).keys := by
  induction items generalizing items' a b with
  | nil =>
    obtain rfl : items' = [] := List.map_eq_nil_iff.mp alike.symm
    exact same
  | cons item rest ih =>
    cases items' with
    | nil => cases alike
    | cons item' rest' =>
      obtain ⟨fold, later⟩ := List.cons.inj alike
      have inserted : (a.insert item).keys = (b.insert item').keys := by
        simp only [insert, keys, fold]
        exact keys_insertHeld same _ _ _
      exact ih inserted later

/-- Inventories with the same keys hold the same items, however spelled. -/
theorem sameItems_of_keys (same : a.keys = b.keys) : a.sameItems b = true := by
  have length : a.size = b.size := by
    simpa [keys, size] using congrArg List.length same
  simp only [sameItems, length, decide_true, Bool.true_and, List.all_eq_true]
  intro entry member
  have inside : entry.1 ∈ b.keys := same ▸ List.mem_map_of_mem member
  simpa [keys] using inside

end Inventory

/-! ## Offers -/

theorem offersFrom_core {a b : Inventory} (same : a.keys = b.keys) (first : Nat)
    {bs bs' : List Branch} (alike : bs.map Branch.core = bs'.map Branch.core) :
    (offersFrom a first bs).map Offer.core = (offersFrom b first bs').map Offer.core := by
  induction bs generalizing bs' first with
  | nil =>
    obtain rfl : bs' = [] := List.map_eq_nil_iff.mp alike.symm
    rfl
  | cons x rest ih =>
    cases bs' with
    | nil => cases alike
    | cons x' rest' =>
      obtain ⟨here, later⟩ := List.cons.inj alike
      have guards : x.guard.all a.meets = x'.guard.all b.meets :=
        Inventory.all_meets_core same (congrArg Branch.guard here)
      have label : x.core.label = x'.core.label := congrArg Branch.label here
      change x.label = x'.label at label
      simp only [offersFrom, guards]
      split
      · simp only [List.map_cons, Offer.core, here, label, ih _ later]
      · exact ih _ later

theorem Scene.offers_core {a b : Inventory} (same : a.keys = b.keys) {s s' : Scene}
    (alike : s.core = s'.core) :
    (s.offers a).map Offer.core = (s'.offers b).map Offer.core :=
  offersFrom_core same 1 (congrArg Scene.branches alike)

/-- An input picks the same number from offers with the same core, or nothing. -/
theorem pick?_core (offers : List Offer) (input : Text) :
    pick? (offers.map Offer.core) input =
      (pick? offers input).map fun picked => (picked.1, picked.2.core) := by
  unfold pick?
  cases Text.toInt? input.trim with
  | none => rfl
  | some i =>
    simp only [Option.bind_eq_bind, Option.bind_some]
    split
    · rfl
    · rw [List.getElem?_map]
      cases offers[i.toNat - 1]? with
      | none => rfl
      | some o => rfl

theorem map_choice_core (offers : List Offer) :
    (offers.map Offer.core).map Offer.choice = offers.map Offer.choice := by
  rw [List.map_map]
  rfl

end Gamebook
