import Gamebook.Proofs.Loader.Snapshot
import Gamebook.Proofs.Session.Abreast
import Gamebook.Proofs.Session.Game

/-! # Files that are not visited do not matter

A session reads the file of its entry and the files of the targets in other files that the player
has chosen (`Play.soughtAll`). To see that it reads no others, two sessions are played side by side.
Depending on how the worlds are related this says that other files may hold anything, or that nothing
else is read.
-/

namespace Gamebook

variable {σ υ : Type} {R : List Text} {W : σ → υ → Prop}

namespace Play

/-- The play in another world. -/
def inWorld {τ : Type} (p : Play σ τ) (v : υ) : Play υ τ :=
  ⟨p.session, p.loader, v, p.events⟩

theorem abreast_inWorld {p : Play σ} {v : υ} (alike : W p.world v) :
    Abreast W (fun _ => Eq) p (p.inWorld v) :=
  .intro alike rfl

/-- Plays of the same session with the same events differ only in their worlds. -/
theorem Same.inWorld {r : Option Failure × Play σ} {s : Option Failure × Play υ}
    (same : Same W (fun _ => Eq) r s) : ∃ v, W r.2.world v ∧ s = (r.1, r.2.inWorld v) := by
  obtain ⟨answer, ⟨world, rfl⟩⟩ := same
  exact ⟨_, world, rfl⟩

end Play

/-! ## A record of what is read -/

/-- A call that leaves the record alone. -/
def aside {α : Type} (f : σ → α × σ) (w : σ × Readings) : α × σ × Readings :=
  ((f w.1).1, (f w.1).2, w.2)

/-- The host with a record of what it reads. -/
def Host.noting (h : Host σ) : Host (σ × Readings) where
  halted := aside h.halted
  read := h.read.noting
  tell lines := aside (h.tell lines)
  offer choices := aside (h.offer choices)
  complain message := aside (h.complain message)

def Player.noting (player : Player σ) : Player (σ × Readings) where
  answers := player.answers.map fun answer n => aside (answer n)
  last n := aside (player.last n)

def Deed.noting : Deed σ → Deed (σ × Readings)
  | .move m => .move m
  | .run player entry => .run (player.map Player.noting) entry
  | .cancel => .cancel
  | .meanwhile change => .meanwhile fun w => (change w.1, w.2)

/-- That a world has been given a record, in which there are only files of a list. -/
def Noted (R : List Text) (w : σ) (v : σ × Readings) : Prop :=
  v.1 = w ∧ ∀ reading ∈ v.2, reading.1 ∈ R

theorem aside_noted {α : Type} (f : σ → α × σ) {w : σ} {v : σ × Readings} (noted : Noted R w v) :
    Paired (Noted R) (f w) (aside f v) := by
  obtain ⟨rfl, among⟩ := noted
  exact .intro _ ⟨rfl, among⟩

theorem Host.noting_matches (h : Host σ) : h.Matches R (Noted R) h.noting where
  halted := aside_noted h.halted
  read path wanted := by
    rintro ⟨rfl, among⟩
    refine .intro _ ⟨rfl, fun reading member => ?_⟩
    rcases List.mem_append.mp member with before | now
    · exact among reading before
    · rw [List.mem_singleton.mp now]
      exact wanted
  tell lines := aside_noted (h.tell lines)
  offer choices := aside_noted (h.offer choices)
  complain message := aside_noted (h.complain message)

theorem Deed.noting_matches (d : Deed σ) : d.Matches (Noted R) d.noting := by
  cases d with
  | move m => exact .move m
  | cancel => exact .cancel
  | meanwhile change => exact .meanwhile fun noted => ⟨congrArg change noted.1, noted.2⟩
  | run player entry =>
    cases player with
    | none => exact .nobody entry
    | some player =>
      refine .run ⟨?_, fun n => aside_noted (player.last n)⟩ entry
      rw [Player.noting, List.forall₂_map_right_iff]
      exact List.forall₂_same.mpr fun answer _ n => aside_noted (answer n)

/-! ## Other files -/

/-- Let calls be made on a session, and look at the files that are needed for its entry and for the
    targets in other files that the player has chosen. With a record of what is read the calls do
    the same, and nothing else is read. With another way of reading that agrees on these files, the
    calls lead to the same answers, sessions, worlds and events. -/
theorem unvisited_files_do_not_matter (h : Host σ) (p : Play σ) (deeds : List (Deed σ)) :
    let needed := p.soughtAll h deeds
    let noted := (p.inWorld (p.world, ([] : Readings))).performAll h.noting (deeds.map Deed.noting)
    noted.map (fun r => (r.1, r.2.inWorld r.2.world.1)) = p.performAll h deeds ∧
      (∀ r ∈ noted, ∀ reading ∈ r.2.world.2, reading.1 ∈ needed) ∧
      ∀ read : ReadFile σ, (∀ path ∈ needed, ∀ w, read path w = h.read path w) →
        p.performAll { h with read } deeds = p.performAll h deeds := by
  intro needed noted
  have deedsNoted : List.Forall₂ (Deed.Matches (Noted needed)) deeds (deeds.map Deed.noting) :=
    List.forall₂_map_right_iff.mpr (List.forall₂_same.mpr fun d _ => d.noting_matches)
  have start : Play.Abreast (Noted needed) (fun _ => Eq) p (p.inWorld (p.world, ([] : Readings))) :=
    Play.abreast_inWorld ⟨rfl, fun _ none => nomatch none⟩
  have same : List.Forall₂ (Play.Same (Noted needed) fun _ => Eq) (p.performAll h deeds) noted :=
    start.performAll Crew.matches_self h.noting_matches deedsNoted (List.Subset.refl _)
  refine ⟨?_, ?_, fun read agree => ?_⟩
  · have forgotten : List.Forall₂ Eq (noted.map fun r => (r.1, r.2.inWorld r.2.world.1))
        (p.performAll h deeds) := by
      rw [List.forall₂_map_left_iff]
      refine same.flip.imp fun s r same => ?_
      obtain ⟨v, ⟨world, -⟩, rfl⟩ := Play.Same.inWorld same
      exact Prod.ext rfl (congrArg r.2.inWorld world)
    rwa [List.forall₂_eq_eq_eq] at forgotten
  · have among : List.Forall₂ (fun s r => (∀ reading ∈ s.2.world.2, reading.1 ∈ needed) ∧
        Play.Same (Noted needed) (fun _ => Eq) r s) noted (p.performAll h deeds) :=
      same.flip.imp fun s r same => ⟨same.after.world.2, same⟩
    exact ((List.forall₂_and_left ..).mp among).1
  · have same : List.Forall₂ (Play.Same Eq fun _ => Eq) (p.performAll h deeds)
        (p.performAll { h with read } deeds) :=
      (Play.abreast_inWorld rfl).performAll Crew.matches_self (Host.matches_of_agree agree)
        (List.forall₂_same.mpr fun d _ => d.matches_self) (List.Subset.refl _)
    have equal := same.imp (S := Eq) fun r s same => by
      obtain ⟨v, rfl, rfl⟩ := Play.Same.inWorld same
      rfl
    rw [List.forall₂_eq_eq_eq] at equal
    exact equal.symm

/-- A way out leads to another file. As long as it is not taken, the file may be missing or it may
    hold nonsense. -/
theorem unvisited_files_do_not_matter_untaken :
    let text : Text := "@module m: @scene s: select \x7b \"on\" => s, " ++
      ("\"out\" => @file(\"b\")::m::s \x7d; @end-module" : Text)
    let host (other : Except Failure Text) : Host Unit :=
      { Story.vault.host with read := fun path w => (if path = "/a" then .ok text else other, w) }
    let start : Play Unit := ⟨{ id := "v" }, { directory := "/" }, (), []⟩
    let deeds : List (Deed Unit) := [.move (.start ⟨"a", "m", "s"⟩), .move (.choose "1")]
    let first := start.performAll (host (.error [.missing "gone"])) deeds
    start.soughtAll (host (.error [.missing "gone"])) deeds = [("/a" : Text)] ∧
      first.map (fun r => (r.1, r.2.session.choices.map Choice.label)) =
        List.replicate 2 (none, [("on" : Text), ("out" : Text)]) ∧
      start.performAll (host (.ok "nonsense")) deeds = first := by
  intro text host start deeds first
  have needed : start.soughtAll (host (.error [.missing "gone"])) deeds = [("/a" : Text)] := by
    decide +kernel
  refine ⟨needed, by decide +kernel, ?_⟩
  refine (unvisited_files_do_not_matter (host (.error [.missing "gone"])) start deeds).2.2
    (host (.ok "nonsense")).read ?_
  rw [needed]
  intro path member w
  rw [List.mem_singleton.mp member]
  rfl

end Gamebook
