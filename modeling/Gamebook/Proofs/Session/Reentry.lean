import Gamebook.Proofs.Inventory.Effects
import Gamebook.Proofs.Session.Game
import Gamebook.Proofs.Session.Steps

/-! # Entering a scene again

Effects that have just been applied change nothing when they are applied again. So in every session
the current scene has nothing left to change (`Session.Steady`), and a choice that leads back to it
leaves the inventory and what is offered as they are.
-/

namespace Gamebook

variable {σ : Type}

/-- That the effects of the current scene would change nothing, and that the branches it allows are
    on offer. -/
structure Session.Steady (s : Session) : Prop where
  valid : s.inventory.Valid
  unchanged : ∀ found, s.current = some found →
    found.scene.effects.foldl Inventory.apply s.inventory = s.inventory
  offered : s.stage = .awaitingChoice →
    ∃ found, s.current = some found ∧ s.offers = found.scene.offers s.inventory

namespace Session.Steady

variable {s : Session}

/-- What is on offer does not matter once the session is over. -/
theorem finished (valid : s.inventory.Valid)
    (unchanged : ∀ found, s.current = some found →
      found.scene.effects.foldl Inventory.apply s.inventory = s.inventory) (f : Failure) :
    (s.finished f).Steady where
  valid := valid
  unchanged := unchanged
  offered waiting := by cases waiting

theorem unchanged_arrived (valid : s.inventory.Valid) (found other : Found)
    (here : (s.arrived found).current = some other) :
    other.scene.effects.foldl Inventory.apply (s.arrived found).inventory =
      (s.arrived found).inventory := by
  obtain rfl : found = other := Option.some.inj here
  exact valid.foldl_apply_again found.scene.effects

end Session.Steady

namespace View

variable {h : Host σ} {v : View} {r : Option Failure × View}

theorem Entering.steady {found : Found} (entering : v.Entering h found r)
    (steady : v.session.Steady) : r.2.session.Steady := by
  have valid : (v.session.arrived found).inventory.Valid :=
    steady.valid.foldl_apply found.scene.effects
  have unchanged := Session.Steady.unchanged_arrived steady.valid found
  cases entering with
  | halted asked => exact .finished steady.valid steady.unchanged _
  | unshown refused => exact .finished valid unchanged _
  | deadEnd nothing => exact .finished valid unchanged _
  | broken something missing => exact .finished valid unchanged _
  | awaiting something whole => exact ⟨valid, unchanged, fun _ => ⟨found, rfl, rfl⟩⟩

theorem Starting.steady {entry : Address} {w : σ} (starting : v.Starting h entry w r)
    (steady : v.session.Steady) : r.2.session.Steady := by
  cases starting with
  | halted asked => exact .finished steady.valid steady.unchanged _
  | unresolved kept failed => exact .finished steady.valid steady.unchanged _
  | entering kept ok rest => exact rest.steady steady

theorem Choosing.steady {input : Text} {w : σ} (choosing : v.Choosing h input w r)
    (steady : v.session.Steady) : r.2.session.Steady := by
  cases choosing with
  | entering picked kept ok rest => exact rest.steady steady
  | rejected unpicked few => exact ⟨steady.valid, steady.unchanged, steady.offered⟩
  | halted asked => exact .finished steady.valid steady.unchanged _
  | unresolved picked kept failed => exact .finished steady.valid steady.unchanged _
  | unshown unpicked refused =>
    exact .finished (s := v.session.mistaken) steady.valid steady.unchanged _
  | exhausted unpicked many =>
    exact .finished (s := v.session.mistaken) steady.valid steady.unchanged _

/-- Entering the current scene again changes nothing in the inventory. -/
theorem Entering.inventory_eq {found : Found} (entering : v.Entering h found r)
    (steady : v.session.Steady) (same : r.2.session.current = v.session.current) :
    r.2.session.inventory = v.session.inventory := by
  cases entering with
  | halted asked => rfl
  | unshown refused => exact steady.unchanged found same.symm
  | deadEnd nothing => exact steady.unchanged found same.symm
  | broken something missing => exact steady.unchanged found same.symm
  | awaiting something whole => exact steady.unchanged found same.symm

theorem Choosing.inventory_eq {input : Text} {w : σ} (choosing : v.Choosing h input w r)
    (steady : v.session.Steady) (same : r.2.session.current = v.session.current) :
    r.2.session.inventory = v.session.inventory := by
  cases choosing with
  | entering picked kept ok rest => exact rest.inventory_eq steady same
  | _ => rfl

end View

namespace Play

/-- Moves and endings leave a session steady, and the world has no bearing on it. -/
theorem kept_steady : Kept fun p : Play σ => p.session.Steady where
  make {p} h m steady := by
    cases m with
    | start entry =>
      by_cases fresh : p.session.stage = .awaitingEntry
      · exact (start_starting h entry fresh).steady steady
      · rw [make, start_of_ne h entry fresh]
        exact steady
    | choose input =>
      by_cases waiting : p.session.stage = .awaitingChoice
      · exact (choose_choosing h input waiting).steady steady
      · rw [make, choose_of_ne h input waiting]
        exact steady
  finish {p} f _ steady := by
    have ended : (p.finish f).2.session = p.session.finished f :=
      congrArg (·.2.session) (seen_finish p f)
    rw [ended]
    exact .finished steady.valid steady.unchanged f
  world _ steady := steady

theorem steady_fresh (id : Text) (maxRetries : Int) (items : List Text) :
    ({ id, maxRetries, inventory := .ofItems items } : Session).Steady where
  valid := Inventory.valid_ofItems items
  unchanged found here := by cases here
  offered waiting := by cases waiting

/-- A choice that leads back to the current scene leaves the inventory and the offers alone. -/
theorem choose_back {p : Play σ} (steady : p.session.Steady) (h : Host σ) (input : Text)
    (same : (p.choose h input).2.session.current = p.session.current) :
    (p.choose h input).2.session.inventory = p.session.inventory ∧
      ((p.choose h input).2.session.stage = .awaitingChoice →
        (p.choose h input).2.session.offers = p.session.offers) := by
  by_cases waiting : p.session.stage = .awaitingChoice
  · have inventory : (p.choose h input).2.session.inventory = p.session.inventory :=
      (choose_choosing h input waiting).inventory_eq steady same
    refine ⟨inventory, fun waits => ?_⟩
    obtain ⟨before, here, offers⟩ := steady.offered waiting
    obtain ⟨found, there, offered⟩ := (kept_steady.make h (.choose input) steady).offered waits
    obtain rfl : found = before := Option.some.inj (there.symm.trans (same.trans here))
    rw [offers, ← inventory]
    exact offered
  · rw [choose_of_ne h input waiting]
    exact ⟨rfl, fun _ => rfl⟩

end Play

/-- The last effect that names an item decides whether it is held after effects in turn, and if none
    does, it is held if it was before. It is remembered with the spelling it was held with, if it
    was held and is not lost meanwhile, and otherwise with the first spelling it comes in with after
    the last loss. Applying the effects once more changes nothing at all, and those that are
    reported to have changed something make the same inventory by themselves. So in every session a
    choice that leads back to the current scene leaves the inventory and what is offered as they
    are. -/
theorem last_effect_wins {inv : Inventory} (valid : inv.Valid) (effects : List Effect) :
    let after := (inv.applyAll effects).1
    after.Valid ∧
    (∀ item, after.has item =
      match (effects.filter (·.names item.fold)).getLast? with
      | some e => e.isGet
      | none => inv.has item) ∧
    (∀ item, Remembers (inv.spelling? item) (effects.filter (·.names item.fold))
      (after.spelling? item)) ∧
    (after.applyAll effects).1 = after ∧
    (inv.applyAll (inv.applyAll effects).2).1 = after ∧
    ∀ {σ : Type} {id : Text} {maxRetries : Int} {items : List Text} {l : Loader} {w : σ}
      {p : Play σ}, Play.Leads ⟨{ id, maxRetries, inventory := .ofItems items }, l, w, []⟩ p →
      ∀ (h : Host σ) (input : Text),
        let next := (p.choose h input).2.session
        next.current = p.session.current →
          next.inventory = p.session.inventory ∧
          (next.stage = .awaitingChoice → next.offers = p.session.offers) := by
  intro after
  have made : after = effects.foldl Inventory.apply inv := Inventory.applyAll_fst inv effects
  have spelled (item : Text) : after.spelling? item =
      Effect.remembered (inv.spelling? item) (effects.filter (·.names item.fold)) := by
    rw [made]
    exact valid.lookup_after effects item.fold
  refine ⟨?_, ?_, ?_, ?_, ?_, ?_⟩
  · rw [made]
    exact valid.foldl_apply effects
  · intro item
    rewrite [Inventory.has_eq_isSome, Inventory.has_eq_isSome, spelled, Effect.isSome_remembered]
    rfl
  · intro item
    rw [spelled]
    exact Effect.remembers_remembered _ _
  · rw [Inventory.applyAll_fst, made]
    exact valid.foldl_apply_again effects
  · rw [Inventory.applyAll_fst, made]
    exact valid.foldl_apply_changed effects
  · intro σ id maxRetries items l w p leads h input next same
    have steady : p.session.Steady :=
      Play.kept_steady.leads (fun _ steady => steady) leads
        (Play.steady_fresh id maxRetries items)
    exact Play.choose_back steady h input same

/-- A story of one scene, in which a key is exchanged for another one whenever the player stays. -/
def Story.armory : Story where
  directory := "/"
  files path :=
    if path = ("/a" : Text) then
      .ok (("@module m: @scene s: get \"key\"; lose \"Key\"; get \"kEy\"; get \"keY\";" : Text) ++
        ("select \x7b has \"key\" ? \"stay\" => s \x7d;@end-module" : Text))
    else .error (.ofProblem .sessionCancelled)

/-- The key that a player came with is exchanged at the entry, and staying changes nothing more. -/
theorem last_effect_wins_armory :
    let h := Story.armory.host
    let effects : List Effect :=
      [.get "key" .start, .lose "Key" .start, .get "kEy" .start, .get "keY" .start]
    let fresh : Play Unit :=
      ⟨{ id := "a", maxRetries := 0, inventory := .ofItems ["KEY"] }, { directory := "/" }, (), []⟩
    let p := (fresh.start h ⟨"a", "m", "s"⟩).2
    let next := (p.choose h "1").2.session
    (Inventory.ofItems ["KEY"]).Valid ∧
      Remembers (some "KEY") effects (some "kEy") ∧
      fresh.Leads p ∧ p.session.inventory.items = ["kEy"] ∧
      next.current = p.session.current ∧ next.stage = .awaitingChoice ∧
      next.inventory = p.session.inventory ∧ next.offers = p.session.offers := by
  intro h effects fresh p next
  have valid := Inventory.valid_ofItems ["KEY"]
  obtain ⟨-, -, remembers, -, -, back⟩ := last_effect_wins valid effects
  have leads : fresh.Leads p :=
    .single (.perform h fresh (.move (.start ⟨"a", "m", "s"⟩)))
  have facts : p.session.inventory.items = ["kEy"] ∧ next.current = p.session.current ∧
      next.stage = .awaitingChoice := by
    decide +kernel
  obtain ⟨exchanged, same, waiting⟩ := facts
  obtain ⟨inventory, offers⟩ := back leads h "1" same
  exact ⟨valid, remembers "Key", leads, exchanged, same, waiting, inventory, offers waiting⟩

end Gamebook
