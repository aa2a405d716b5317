import Gamebook.Session
import Mathlib.Data.List.Basic

/-! # What is offered

The offers of a scene are the branches whose guards hold, in the order in which they are declared
and numbered from one without gaps. An input picks the offer with its number.
-/

namespace Gamebook

/-- Branches as they are offered: numbered from one, in their order. -/
def numbered (branches : List Branch) : List Offer :=
  branches.mapIdx fun i b => ⟨⟨(i + 1 : Nat), b.label⟩, b⟩

theorem offersFrom_eq (inv : Inventory) (first : Nat) (branches : List Branch) :
    offersFrom inv first branches =
      (branches.filter fun b => b.guard.all inv.meets).mapIdx
        fun i b => ⟨⟨(first + i : Nat), b.label⟩, b⟩ := by
  induction branches generalizing first with
  | nil => rfl
  | cons b rest ih =>
    simp only [offersFrom]
    split
    · next holds =>
      rw [List.filter_cons, if_pos holds, List.mapIdx_cons, ih]
      simp [Nat.add_assoc, Nat.add_comm 1]
    · next fails => rw [List.filter_cons, if_neg fails, ih]

theorem Scene.offers_eq (s : Scene) (inv : Inventory) :
    s.offers inv = numbered (s.branches.filter fun b => b.guard.all inv.meets) := by
  rw [Scene.offers, offersFrom_eq, numbered]
  simp [Nat.add_comm]

@[simp] theorem length_numbered (branches : List Branch) :
    (numbered branches).length = branches.length :=
  List.length_mapIdx

@[simp] theorem numbered_eq_nil {branches : List Branch} :
    numbered branches = [] ↔ branches = [] :=
  List.mapIdx_eq_nil_iff

theorem map_branch_numbered (branches : List Branch) :
    (numbered branches).map Offer.branch = branches := by
  apply List.ext_getElem?
  intro i
  simp [numbered, Function.comp_def]

theorem map_choice_numbered (branches : List Branch) :
    (numbered branches).map Offer.choice = branches.mapIdx fun i b => ⟨(i + 1 : Nat), b.label⟩ := by
  apply List.ext_getElem?
  intro i
  simp [numbered, Function.comp_def]

/-- The branch that an input picks: the one whose number it is, in decimal and with blanks around it
    left aside. -/
def chosen? (branches : List Branch) (input : Text) : Option Branch :=
  match Text.toInt? input.trim with
  | some n => if 1 ≤ n ∧ n ≤ branches.length then branches[n.toNat - 1]? else none
  | none => none

theorem pick?_branch (branches : List Branch) (input : Text) :
    (pick? (numbered branches) input).map (fun picked => picked.2.branch) =
      chosen? branches input := by
  unfold pick? chosen?
  cases Text.toInt? input.trim with
  | none => rfl
  | some n =>
    simp only [Option.bind_eq_bind, Option.bind_some]
    by_cases positive : n < 1
    · rw [if_pos positive, if_neg (by omega)]
      rfl
    · rw [if_neg positive]
      by_cases inside : n ≤ branches.length
      · rw [if_pos ⟨by omega, inside⟩]
        cases here : branches[n.toNat - 1]? with
        | none => simp [numbered, here]
        | some b => simp [numbered, here]
      · rw [if_neg (by omega)]
        have beyond : (numbered branches)[n.toNat - 1]? = none := by
          rw [List.getElem?_eq_none_iff, length_numbered]
          omega
        simp [beyond]

end Gamebook
