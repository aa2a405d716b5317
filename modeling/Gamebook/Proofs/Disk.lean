import Gamebook.Disk

/-! # Ways on a disk

Whatever is put where no folder was leaves every way on a disk as it was, except for what is found
at its end. So a file that was opened by a path is found by that path again, whatever it holds.
-/

namespace Gamebook.Disk

variable {d : Disk} {place path : Text} {node : Node}

theorem lookup_filter_ne {p q : Text} (other : q ≠ p) (nodes : List (Text × Node)) :
    (nodes.filter fun (r, _) => r ≠ p).lookup q = nodes.lookup q := by
  induction nodes with
  | nil => rfl
  | cons pair rest ih =>
    obtain ⟨r, n⟩ := pair
    by_cases here : r = p
    · subst here
      simpa [List.lookup_cons, beq_false_of_ne other] using ih
    · rw [List.filter_cons_of_pos (by simpa using here), List.lookup_cons, List.lookup_cons, ih]

@[simp]
theorem node?_put_self : (d.put place node).node? place = some node := by
  simp [put, node?]

theorem node?_put_ne {p : Text} (other : p ≠ place) : (d.put place node).node? p = d.node? p := by
  simp only [put, node?, List.lookup_cons, beq_false_of_ne other, lookup_filter_ne other]

@[simp]
theorem directory_put : (d.put place node).directory = d.directory := rfl

@[simp]
theorem put_put (again : Node) : (d.put place node).put place again = d.put place again := by
  simp [put]

/-! ## Ways -/

/-- That everything on a disk lies in a folder, up to the root. -/
structure Rooted (d : Disk) : Prop where
  root : d.node? [Path.slash] = some .folder
  directory : d.node? d.directory = some .folder
  above : ∀ p n, d.node? p = some n → d.node? (Path.directory p) = some .folder

theorem Rooted.of_nodes (root : d.node? [Path.slash] = some .folder)
    (directory : d.node? d.directory = some .folder)
    (above : ∀ entry ∈ d.nodes, d.node? (Path.directory entry.1) = some .folder) : d.Rooted where
  root := root
  directory := directory
  above := by
    intro p n there
    unfold node? at there
    split at there
    · next found =>
      obtain ⟨before, after, split, -⟩ := List.lookup_eq_some_iff.mp found
      exact above (p, _) (split ▸ List.mem_append_right before List.mem_cons_self)
    · split at there
      · next top =>
        rw [top]
        exact root
      · cases there

/-- A place on the way, once a node was put on the disk. -/
def replaced (place : Text) (node : Node) (spot : Text × Node) : Text × Node :=
  (spot.1, if spot.1 = place then node else spot.2)

theorem step_folder (here name : Text) :
    d.step (here, .folder) name =
      if name = [] ∨ name = Text.ofString "." then .ok (here, .folder)
      else if name = Text.ofString ".." then
        .ok (Path.directory here, (d.node? (Path.directory here)).getD .folder)
      else if longestName < name.length then .error (.said "file name too long")
      else
        match d.node? (child here name) with
        | some node => .ok (child here name, node)
        | none => .error nothingThere :=
  rfl

theorem replaced_of_ne {spot : Text × Node} (other : spot.1 ≠ place) :
    replaced place node spot = spot := by
  rw [replaced, if_neg other]

theorem walk_cons {spot goal : Text × Node} {name : Text} {names : List Text}
    (walk : d.walk spot (name :: names) = .ok goal) :
    ∃ next, d.step spot name = .ok next ∧ d.walk next names = .ok goal := by
  rw [Disk.walk, List.foldlM_cons] at walk
  cases step : d.step spot name with
  | error link =>
    rw [step] at walk
    cases walk
  | ok next =>
    rw [step] at walk
    exact ⟨next, rfl, walk⟩

theorem find_eq_walk (full : ¬path.isEmpty) (plain : ¬path.contains 0) :
    d.find path = d.walk (d.origin path) (Text.split Path.slash path) := by
  rw [Disk.find, if_neg full, if_neg plain]

theorem walk_of_find {goal : Text × Node} (find : d.find path = .ok goal) :
    ¬path.isEmpty ∧ ¬path.contains 0 ∧
      d.walk (d.origin path) (Text.split Path.slash path) = .ok goal := by
  unfold Disk.find at find
  split at find
  · cases find
  split at find
  · cases find
  exact ⟨‹_›, ‹_›, find⟩

section Ways

variable (rooted : d.Rooted) {spot goal : Text × Node}
include rooted

theorem step_stands {name : Text} (stands : d.node? spot.1 = some spot.2)
    (step : d.step spot name = .ok goal) : d.node? goal.1 = some goal.2 := by
  obtain ⟨here, n⟩ := spot
  cases n with
  | file | database => cases step
  | folder =>
    rw [step_folder] at step
    split at step
    · cases step
      exact stands
    split at step
    · cases step
      simp [rooted.above here .folder stands]
    split at step
    · cases step
    split at step
    · next found =>
      cases step
      exact found
    · cases step

theorem walk_stands {names : List Text} (stands : d.node? spot.1 = some spot.2)
    (walk : d.walk spot names = .ok goal) : d.node? goal.1 = some goal.2 := by
  induction names generalizing spot with
  | nil =>
    cases walk
    exact stands
  | cons name names ih =>
    obtain ⟨next, step, walk⟩ := walk_cons walk
    exact ih (step_stands rooted stands step) walk

theorem origin_stands : d.node? (d.origin path).1 = some (d.origin path).2 := by
  unfold origin
  split <;> simp [rooted.root, rooted.directory]

theorem find_stands (find : d.find path = .ok goal) : d.node? goal.1 = some goal.2 :=
  walk_stands rooted (origin_stands rooted) (walk_of_find find).2.2

variable (vacant : d.node? place ≠ some .folder)
include vacant

omit rooted in
theorem ne_of_folder {p : Text} (folder : d.node? p = some .folder) : p ≠ place := by
  rintro rfl
  exact vacant folder

theorem step_put {name : Text} (stands : d.node? spot.1 = some spot.2)
    (step : d.step spot name = .ok goal) :
    (d.put place node).step (replaced place node spot) name = .ok (replaced place node goal) := by
  obtain ⟨here, n⟩ := spot
  cases n with
  | file | database => cases step
  | folder =>
    have apart := ne_of_folder vacant stands
    rw [replaced_of_ne apart, step_folder]
    rw [step_folder] at step
    split at step
    · next stays =>
      cases step
      rw [if_pos stays, replaced_of_ne apart]
    next moves =>
    rw [if_neg moves]
    split at step
    · next up =>
      have above := rooted.above here .folder stands
      have apart := ne_of_folder vacant above
      cases step
      rw [if_pos up, node?_put_ne apart, replaced_of_ne apart]
    next down =>
    rw [if_neg down]
    split at step
    · cases step
    next short =>
    rw [if_neg short]
    split at step
    · next found =>
      cases step
      by_cases there : child here name = place
      · simp [replaced, there]
      · simp [node?_put_ne there, found, replaced, there]
    · cases step

theorem walk_put {names : List Text} (stands : d.node? spot.1 = some spot.2)
    (walk : d.walk spot names = .ok goal) :
    (d.put place node).walk (replaced place node spot) names = .ok (replaced place node goal) := by
  induction names generalizing spot with
  | nil =>
    cases walk
    rfl
  | cons name names ih =>
    obtain ⟨next, step, walk⟩ := walk_cons walk
    rw [Disk.walk, List.foldlM_cons, step_put rooted vacant stands step]
    exact ih (step_stands rooted stands step) walk

theorem origin_put : (d.put place node).origin path = replaced place node (d.origin path) := by
  have root := ne_of_folder vacant rooted.root
  have directory := ne_of_folder vacant rooted.directory
  unfold origin
  split
  · simp [node?_put_ne root, replaced, root]
  · simp [node?_put_ne directory, replaced, directory]

variable (node) in
theorem walk_origin_put {names : List Text} (walk : d.walk (d.origin path) names = .ok goal) :
    (d.put place node).walk ((d.put place node).origin path) names =
      .ok (replaced place node goal) := by
  rw [origin_put rooted vacant]
  exact walk_put rooted vacant (origin_stands rooted) walk

end Ways

/-- A way that ends at nothing leads on to a name that is not there. -/
theorem step_nothing {folder name : Text} (node : Node)
    (step : d.step (folder, .folder) name = .error nothingThere) :
    d.node? (child folder name) = none ∧
      (d.put (child folder name) node).step (folder, .folder) name =
        .ok (child folder name, node) := by
  rw [step_folder] at step ⊢
  split at step
  · cases step
  split at step
  · cases step
  split at step
  · cases step
  split at step
  · cases step
  rw [if_neg ‹_›, if_neg ‹_›, if_neg ‹_›, node?_put_self]
  exact ⟨‹_›, rfl⟩

theorem walk_concat {spot here : Text × Node} {names : List Text} {name : Text}
    (walk : d.walk spot names = .ok here) : d.walk spot (names ++ [name]) = d.step here name := by
  rw [Disk.walk] at walk ⊢
  rw [List.foldlM_append, walk]
  exact bind_pure (d.step here name)

/-- A path leads to something, or to a name that is not there in a folder that is. -/
theorem placeFor_cases {found : Option Node} (placed : d.placeFor path = .ok (place, found)) :
    (∃ n, found = some n ∧ d.find path = .ok (place, n)) ∨
      found = none ∧ ¬path.isEmpty ∧ ¬path.contains 0 ∧ ∃ above folder name,
        Text.split Path.slash path = above ++ [name] ∧ place = child folder name ∧
          d.walk (d.origin path) above = .ok (folder, .folder) ∧
          d.step (folder, .folder) name = .error nothingThere := by
  unfold placeFor at placed
  split at placed
  · next find =>
    cases placed
    exact .inl ⟨_, rfl, find⟩
  next link find =>
  split at placed
  · cases placed
  next nothing =>
  obtain rfl : link = nothingThere := by simpa using nothing
  split at placed
  · cases placed
  next name above names =>
  split at placed
  · cases placed
  next folder n walk =>
  split at placed
  · cases placed
  next inFolder =>
  obtain rfl : n = .folder := by simpa using inFolder
  split at placed
  · cases placed
  next full =>
  split at placed
  · cases placed
  cases placed
  have split : Text.split Path.slash path = above.reverse ++ [name] := by
    rw [List.reverse_eq_iff.mp names, List.reverse_cons]
  have plain : ¬path.contains 0 := by
    intro wrong
    rw [Disk.find, if_neg full, if_pos wrong] at find
    cases find
  rw [find_eq_walk full plain, split, walk_concat walk] at find
  exact .inr ⟨rfl, full, plain, above.reverse, folder, name, split, rfl, walk, find⟩

/-- A file that is at a path, or would be made there, is found there by the same path. -/
theorem placeFor_put (rooted : d.Rooted) {found : Option Node}
    (placed : d.placeFor path = .ok (place, found)) (vacant : found ≠ some .folder) :
    (d.put place node).placeFor path = .ok (place, some node) := by
  suffices find : (d.put place node).find path = .ok (place, node) by
    rw [placeFor, find]
  obtain ⟨n, rfl, find⟩ | ⟨rfl, full, plain, above, folder, name, split, rfl, walk, step⟩ :=
    placeFor_cases placed
  · have stands := find_stands rooted find
    obtain ⟨full, plain, walk⟩ := walk_of_find find
    rw [find_eq_walk full plain, walk_origin_put node rooted (stands ▸ vacant) walk]
    simp [replaced]
  · obtain ⟨missing, step⟩ := step_nothing node step
    have stands := walk_stands rooted (origin_stands rooted) walk
    have walk := walk_origin_put node rooted (missing ▸ vacant) walk
    rw [find_eq_walk full plain, split, walk_concat walk]
    rw [replaced_of_ne (ne_of_folder (missing ▸ vacant) stands)]
    exact step

end Gamebook.Disk
