import Gamebook.Text
import Mathlib.Data.List.Basic

/-! # The order of texts

Comparing byte by byte is a strict total order, so sorting texts of which no two are equal gives a
strictly increasing list of the same texts.
-/

namespace Gamebook.Text

theorem precedes_trans {r s t : Text} (first : precedes r s = true) (second : precedes s t = true) :
    precedes r t = true := by
  induction r generalizing s t with
  | nil =>
    cases s with
    | nil => simp [precedes] at first
    | cons b s =>
      cases t with
      | nil => simp [precedes] at second
      | cons c t => rfl
  | cons a r ih =>
    cases s with
    | nil => simp [precedes] at first
    | cons b s =>
      cases t with
      | nil => simp [precedes] at second
      | cons c t =>
        simp only [precedes] at first second ⊢
        grind

theorem precedes_irrefl (t : Text) : precedes t t = false := by
  induction t with
  | nil => rfl
  | cons b t ih => simp [precedes, ih]

/-- Of two texts that differ one precedes the other. -/
theorem precedes_total {s t : Text} (differ : s ≠ t) :
    precedes s t = true ∨ precedes t s = true := by
  induction s generalizing t with
  | nil =>
    cases t with
    | nil => exact absurd rfl differ
    | cons c t => exact .inl rfl
  | cons b s ih =>
    cases t with
    | nil => exact .inr rfl
    | cons c t =>
      simp only [precedes]
      by_cases same : b = c
      · subst same
        have later : s ≠ t := fun equal => differ (by rw [equal])
        simpa using ih later
      · have codes : b.toNat ≠ c.toNat := fun equal => same (UInt8.toNat.inj equal)
        grind

theorem mem_insertSorted {t s : Text} {texts : List Text} :
    s ∈ insertSorted t texts ↔ s = t ∨ s ∈ texts := by
  induction texts with
  | nil => simp [insertSorted]
  | cons first rest ih =>
    simp only [insertSorted]
    split
    · simp
    · simp only [List.mem_cons, ih]
      tauto

theorem mem_sorted {t : Text} {texts : List Text} : t ∈ sorted texts ↔ t ∈ texts := by
  induction texts with
  | nil => rfl
  | cons first rest ih =>
    rw [sorted, List.foldr_cons, mem_insertSorted, ← sorted, ih, List.mem_cons]

theorem length_insertSorted (t : Text) (texts : List Text) :
    (insertSorted t texts).length = texts.length + 1 := by
  induction texts with
  | nil => rfl
  | cons first rest ih =>
    simp only [insertSorted]
    split
    · rfl
    · simp [ih]

theorem length_sorted (texts : List Text) : (sorted texts).length = texts.length := by
  induction texts with
  | nil => rfl
  | cons first rest ih =>
    rw [sorted, List.foldr_cons, length_insertSorted, ← sorted, ih, List.length_cons]

theorem pairwise_insertSorted {t : Text} {texts : List Text} (fresh : t ∉ texts)
    (increasing : texts.Pairwise (precedes · ·)) :
    (insertSorted t texts).Pairwise (precedes · ·) := by
  induction texts with
  | nil => simp [insertSorted]
  | cons first rest ih =>
    obtain ⟨before, later⟩ := List.pairwise_cons.mp increasing
    simp only [insertSorted]
    split
    · next smaller =>
      refine List.pairwise_cons.mpr ⟨fun s member => ?_, increasing⟩
      rcases List.mem_cons.mp member with rfl | further
      · exact smaller
      · exact precedes_trans smaller (before s further)
    · next notSmaller =>
      have greater : precedes first t = true :=
        (precedes_total (List.ne_of_not_mem_cons fresh)).resolve_left notSmaller
      refine List.pairwise_cons.mpr
        ⟨fun s member => ?_, ih (List.not_mem_of_not_mem_cons fresh) later⟩
      rcases mem_insertSorted.mp member with rfl | further
      · exact greater
      · exact before s further

/-- Texts that are all different come out strictly increasing. -/
theorem pairwise_sorted {texts : List Text} (different : texts.Nodup) :
    (sorted texts).Pairwise (precedes · ·) := by
  induction texts with
  | nil => exact .nil
  | cons first rest ih =>
    obtain ⟨fresh, others⟩ := List.nodup_cons.mp different
    rw [sorted, List.foldr_cons, ← sorted]
    exact pairwise_insertSorted (fun member => fresh (mem_sorted.mp member)) (ih others)

end Gamebook.Text
