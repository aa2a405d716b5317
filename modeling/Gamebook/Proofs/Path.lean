import Gamebook.Proofs.Disk

/-! # Canonical paths lead where the paths do

A clean absolute path is made up of names, none of which is empty or stands for another folder. The
way along any path, with all its detours, ends at the clean path that its names add up to, and the
way along that one ends there too. Such a path is what cleaning gives for every absolute path, and it is
left as it is when it is cleaned again.
-/

namespace Gamebook

namespace Text

variable {b : UInt8}

theorem split_ne_nil (b : UInt8) (t : Text) : split b t ≠ [] := by
  cases t with
  | nil => simp [split]
  | cons c rest =>
    rw [split]
    split
    · simp
    · split
      · simp
      · simp

theorem split_append (before after : Text) :
    split b (before ++ b :: after) = split b before ++ split b after := by
  induction before with
  | nil => simp [split]
  | cons c before ih =>
    rw [List.cons_append, split, split]
    split
    · rw [ih]
      rfl
    · rw [ih]
      cases parts : split b before with
      | nil => exact absurd parts (split_ne_nil b before)
      | cons part parts => rfl

theorem split_of_notMem {t : Text} (plain : b ∉ t) : split b t = [t] := by
  induction t with
  | nil => rfl
  | cons c t ih =>
    rw [List.mem_cons, not_or] at plain
    rw [split, if_neg (Ne.symm plain.1), ih plain.2]

/-- A part holds no separator, and nothing that the whole does not hold. -/
theorem mem_of_mem_split {t part : Text} (member : part ∈ split b t) :
    b ∉ part ∧ ∀ c ∈ part, c ∈ t := by
  induction t generalizing part with
  | nil =>
    obtain rfl : part = [] := by simpa [split] using member
    simp
  | cons c t ih =>
    rw [split] at member
    split at member
    · rcases List.mem_cons.mp member with rfl | later
      · simp
      · exact ⟨(ih later).1, fun x inside => List.mem_cons_of_mem c ((ih later).2 x inside)⟩
    · next other =>
      cases parts : split b t with
      | nil => exact absurd parts (split_ne_nil b t)
      | cons first more =>
        rw [parts] at member ih
        rcases List.mem_cons.mp member with rfl | later
        · obtain ⟨plain, inside⟩ := ih List.mem_cons_self
          refine ⟨by simp [plain, Ne.symm other], fun x here => ?_⟩
          rcases List.mem_cons.mp here with rfl | here
          · exact List.mem_cons_self
          · exact List.mem_cons_of_mem c (inside x here)
        · obtain ⟨plain, inside⟩ := ih (List.mem_cons_of_mem _ later)
          exact ⟨plain, fun x here => List.mem_cons_of_mem c (inside x here)⟩

theorem split_join {names : List Text} (some : names ≠ []) (plain : ∀ n ∈ names, b ∉ n) :
    split b (join [b] names) = names := by
  induction names with
  | nil => exact absurd rfl some
  | cons name names ih =>
    obtain ⟨first, rest⟩ := List.forall_mem_cons.mp plain
    cases names with
    | nil => exact split_of_notMem first
    | cons next names =>
      have whole : join [b] (name :: next :: names) = name ++ b :: join [b] (next :: names) := by
        simp [join]
      rw [whole, split_append, split_of_notMem first, ih (by simp) rest]
      rfl

theorem mem_join {names : List Text} {c : UInt8} (member : c ∈ join [b] names) :
    c = b ∨ ∃ n ∈ names, c ∈ n := by
  induction names with
  | nil => cases member
  | cons name names ih =>
    cases names with
    | nil => exact .inr ⟨name, List.mem_cons_self, member⟩
    | cons next names =>
      simp only [join, List.mem_append, List.mem_singleton] at member
      rcases member with (here | rfl) | later
      · exact .inr ⟨name, List.mem_cons_self, here⟩
      · exact .inl rfl
      · refine (ih later).imp_right ?_
        rintro ⟨n, among, inside⟩
        exact ⟨n, List.mem_cons_of_mem name among, inside⟩

theorem join_concat {names : List Text} (some : names ≠ []) (name : Text) :
    join [b] (names ++ [name]) = join [b] names ++ b :: name := by
  induction names with
  | nil => exact absurd rfl some
  | cons first names ih =>
    cases names with
    | nil => simp [join]
    | cons next names =>
      have rest := ih (by simp)
      rw [List.cons_append] at rest
      simp [join, rest]

end Text

namespace Path

/-- A name that leads one folder down. -/
structure IsPart (name : Text) : Prop where
  some : name ≠ []
  plain : slash ∉ name
  notHere : name ≠ Text.ofString "."
  notAbove : name ≠ Text.ofString ".."

/-- A name of something in a folder. -/
structure IsName (name : Text) : Prop extends IsPart name where
  noZero : 0 ∉ name

/-- The absolute path of names, each in the folder before it. -/
def ofNames (names : List Text) : Text :=
  slash :: Text.join [slash] names

/-- The names that a path adds to those of a folder, last name first. -/
def along (names : List Text) (path : Text) : List Text :=
  (Text.split slash path).foldl (descend true) names

theorem descend_empty (names : List Text) : descend true names [] = names := by
  simp [descend]

theorem descend_name {name : Text} (is : IsPart name) (names : List Text) :
    descend true names name = name :: names := by
  simp [descend, is.some, is.notHere, is.notAbove]

theorem foldl_descend {more : List Text} (are : ∀ n ∈ more, IsPart n) (names : List Text) :
    more.foldl (descend true) names = more.reverse ++ names := by
  induction more generalizing names with
  | nil => rfl
  | cons name more ih =>
    obtain ⟨is, are⟩ := List.forall_mem_cons.mp are
    rw [List.foldl_cons, descend_name is, ih are]
    simp

theorem along_ofNames {names : List Text} (are : ∀ n ∈ names, IsPart n) (before : List Text) :
    along before (ofNames names) = names.reverse ++ before := by
  have skip (path : Text) : along before (slash :: path) = along before path := by
    simp [along, Text.split, descend_empty]
  rw [ofNames, skip]
  cases names with
  | nil => simp [along, Text.join, Text.split, descend_empty]
  | cons name names =>
    rw [along, Text.split_join (by simp) fun n member => (are n member).plain, foldl_descend are]

theorem along_append (names : List Text) (first second : Text) :
    along names (first ++ slash :: second) = along (along names first) second := by
  rw [along, Text.split_append, List.foldl_append]
  rfl

theorem clean_of_isAbsolute {path : Text} (absolute : isAbsolute path = true) :
    clean path = ofNames (along [] path).reverse := by
  simp [clean, absolute, ofNames, along]

/-- The canonical form of a path adds up the names of the base and of the path. -/
theorem absolute_ofNames {base : List Text} (are : ∀ n ∈ base, IsPart n) (path : Text) :
    absolute (ofNames base) path =
      ofNames (along (if isAbsolute path then [] else base.reverse) path).reverse := by
  by_cases rooted : isAbsolute path
  · rw [absolute, if_pos rooted, if_pos rooted, clean_of_isAbsolute rooted]
  · have whole : join (ofNames base) path = clean (ofNames base ++ slash :: path) := by
      simp [join, ofNames]
    have starts : isAbsolute (ofNames base ++ slash :: path) = true := by
      simp [isAbsolute, ofNames]
    rw [absolute, if_neg rooted, if_neg rooted, whole, clean_of_isAbsolute starts, along_append,
      along_ofNames are, List.append_nil]

theorem split_ofNames {names : List Text} (are : ∀ n ∈ names, IsPart n) :
    Text.split slash (ofNames names) = [] :: if names = [] then [[]] else names := by
  rw [ofNames, Text.split, if_pos rfl]
  split
  · next none => simp [none, Text.join, Text.split]
  · next some => rw [Text.split_join some fun n member => (are n member).plain]

theorem zero_notMem_ofNames {names : List Text} (are : ∀ n ∈ names, IsName n) :
    0 ∉ ofNames names := by
  intro zero
  rcases List.mem_cons.mp zero with same | zero
  · cases same
  rcases Text.mem_join zero with same | ⟨name, member, zero⟩
  · cases same
  · exact (are name member).noZero zero

theorem ofNames_concat (names : List Text) (name : Text) :
    ofNames (names ++ [name]) =
      if names = [] then slash :: name else ofNames names ++ slash :: name := by
  split
  · next none => simp [ofNames, none, Text.join]
  · next some => simp [ofNames, Text.join_concat some]

theorem directory_append {p name : Text} (plain : slash ∉ name)
    (absolute : isAbsolute (p ++ [slash]) = true) :
    directory (p ++ slash :: name) = ofNames (along [] p).reverse := by
  have passed : ∀ b ∈ name.reverse, decide (b ≠ slash) = true := by
    intro b member
    rw [decide_eq_true_eq]
    rintro rfl
    exact plain (List.mem_reverse.mp member)
  have folder : ((p ++ slash :: name).reverse.dropWhile (· ≠ slash)).reverse = p ++ [slash] := by
    rw [List.reverse_append, List.reverse_cons, List.append_assoc,
      List.dropWhile_append_of_pos passed]
    simp
  rw [directory, folder, clean_of_isAbsolute absolute, along_append]
  simp [along, Text.split, descend_empty]

/-- The folder that a name lies in has the names before it. -/
theorem directory_ofNames {names : List Text} {name : Text} (are : ∀ n ∈ names, IsPart n)
    (is : IsPart name) : directory (ofNames (names ++ [name])) = ofNames names := by
  rw [ofNames_concat]
  split
  · next none =>
    rw [none]
    exact directory_append (p := []) is.plain rfl
  · rw [directory_append is.plain (by simp [isAbsolute, ofNames]), along_ofNames are]
    simp

theorem directory_root : directory (ofNames []) = ofNames [] := by
  decide

/-! ## Canonical paths -/

/-- That a path is absolute and clean. -/
def IsCanonical (path : Text) : Prop :=
  ∃ names, (∀ n ∈ names, IsPart n) ∧ path = ofNames names

theorem isPart_of_descend {names : List Text} {name : Text} (are : ∀ n ∈ names, IsPart n)
    (plain : slash ∉ name) : ∀ n ∈ descend true names name, IsPart n := by
  unfold descend
  split
  · exact are
  next elsewhere =>
  rw [not_or] at elsewhere
  split
  · cases names with
    | nil => simp
    | cons last above =>
      obtain ⟨is, rest⟩ := List.forall_mem_cons.mp are
      simpa [is.notAbove] using rest
  · next down => exact List.forall_mem_cons.mpr ⟨⟨elsewhere.1, plain, elsewhere.2, down⟩, are⟩

/-- Whatever a path leads along, it ends at names that lead down. -/
theorem isPart_of_along {names : List Text} (are : ∀ n ∈ names, IsPart n) (path : Text) :
    ∀ n ∈ along names path, IsPart n := by
  have plain : ∀ name ∈ Text.split slash path, slash ∉ name :=
    fun name member => (Text.mem_of_mem_split member).1
  unfold along
  generalize Text.split slash path = more at plain
  induction more generalizing names with
  | nil => exact are
  | cons name more ih =>
    obtain ⟨first, rest⟩ := List.forall_mem_cons.mp plain
    exact ih (isPart_of_descend are first) rest

theorem isCanonical_clean {path : Text} (absolute : isAbsolute path = true) :
    IsCanonical (clean path) := by
  refine ⟨_, ?_, clean_of_isAbsolute absolute⟩
  intro n member
  exact isPart_of_along (List.forall_mem_nil IsPart) path n (List.mem_reverse.mp member)

theorem isCanonical_join {first : Text} (absolute : isAbsolute first = true) (second : Text) :
    IsCanonical (join first second) := by
  cases first with
  | nil => cases absolute
  | cons b first => exact isCanonical_clean absolute

theorem isCanonical_absolute {base : Text} (rooted : isAbsolute base = true) (path : Text) :
    IsCanonical (absolute base path) := by
  unfold absolute
  split
  · next here => exact isCanonical_clean here
  · exact isCanonical_join rooted path

theorem isCanonical_of_canonical {base path key : Text} (rooted : isAbsolute base = true)
    (canonical : canonical base path = .ok key) : IsCanonical key := by
  unfold Path.canonical at canonical
  split at canonical
  · cases canonical
  · cases canonical
    exact isCanonical_absolute rooted path

namespace IsCanonical

variable {path : Text}

theorem isAbsolute (is : IsCanonical path) : isAbsolute path = true := by
  obtain ⟨names, -, rfl⟩ := is
  simp [Path.isAbsolute, ofNames]

theorem clean_eq (is : IsCanonical path) : clean path = path := by
  have rooted := is.isAbsolute
  obtain ⟨names, are, rfl⟩ := is
  rw [clean_of_isAbsolute rooted, along_ofNames are, List.append_nil, List.reverse_reverse]

/-- A canonical path leads to itself, from wherever it is taken. -/
theorem canonical_eq (is : IsCanonical path) (base : Text) : canonical base path = .ok path := by
  have full : path.isEmpty = false := by
    obtain ⟨names, -, rfl⟩ := is
    rfl
  simp [canonical, full, absolute, is.isAbsolute, is.clean_eq]

theorem directory (is : IsCanonical path) : IsCanonical (directory path) := by
  obtain ⟨names, are, rfl⟩ := is
  rcases List.eq_nil_or_concat names with rfl | ⟨above, name, rfl⟩
  · exact ⟨[], by simp, directory_root⟩
  · rw [List.concat_eq_append] at are ⊢
    obtain ⟨folder, is⟩ := List.forall_mem_append.mp are
    exact ⟨above, folder, directory_ofNames folder (is name (by simp))⟩

end IsCanonical

end Path

namespace Disk

open Gamebook.Path

variable {d : Disk}

theorem plain_of_mem_split {path : Text} (plain : ¬path.contains 0) :
    ∀ n ∈ Text.split slash path, slash ∉ n ∧ 0 ∉ n := by
  intro n member
  obtain ⟨whole, inside⟩ := Text.mem_of_mem_split member
  refine ⟨whole, fun zero => plain ?_⟩
  rw [List.contains_iff_mem]
  exact inside 0 zero

theorem child_ofNames {names : List Text} (are : ∀ n ∈ names, IsPart n) (name : Text) :
    child (ofNames names) name = ofNames (names ++ [name]) := by
  rw [ofNames_concat]
  cases names with
  | nil => rfl
  | cons first names =>
    have some := (are first List.mem_cons_self).some
    have more : ofNames (first :: names) ≠ [slash] := by
      cases names with
      | nil => simpa [ofNames, Text.join] using some
      | cons next names => simp [ofNames, Text.join]
    simp [child, more]

/-- That the directory of a disk is a folder that stands at its own absolute path. -/
structure Settled (d : Disk) : Prop where
  root : d.node? [slash] = some .folder
  absolute : isAbsolute d.directory = true
  directory : d.find d.directory = .ok (d.directory, .folder)

/-- That names lead from the root to something, each in the folder before it. The last name comes
    first. -/
inductive Leads (d : Disk) : List Text → Node → Prop where
  | root : Leads d [] .folder
  | into {above : List Text} {name : Text} {node : Node} (folder : Leads d above .folder)
      (is : IsName name) (short : ¬longestName < name.length)
      (there : d.node? (ofNames (name :: above).reverse) = some node) :
    Leads d (name :: above) node

namespace Leads

variable {names : List Text} {node : Node}

theorem are (leads : d.Leads names node) : ∀ n ∈ names.reverse, IsName n := by
  induction leads with
  | root => simp
  | into folder is short there ih =>
    rw [List.reverse_cons]
    exact List.forall_mem_append.mpr ⟨ih, by simpa using is⟩

theorem parts (leads : d.Leads names node) : ∀ n ∈ names.reverse, IsPart n :=
  fun n member => (leads.are n member).toIsPart

theorem stands (settled : d.Settled) (leads : d.Leads names node) :
    d.node? (ofNames names.reverse) = some node := by
  cases leads with
  | root => exact settled.root
  | into folder is short there => exact there

theorem walk (leads : d.Leads names node) :
    d.walk ([slash], .folder) names.reverse = .ok (ofNames names.reverse, node) := by
  induction leads with
  | root => rfl
  | @into above name node folder is short there ih =>
    rw [List.reverse_cons] at there ⊢
    rw [walk_concat ih, step_folder, child_ofNames folder.parts, there]
    simp [is.some, is.notHere, is.notAbove, short]

/-- The path of names leads where the names do. -/
theorem find (settled : d.Settled) (leads : d.Leads names node) :
    d.find (ofNames names.reverse) = .ok (ofNames names.reverse, node) := by
  have plain : ¬(ofNames names.reverse).contains 0 := by
    rw [List.contains_iff_mem]
    exact zero_notMem_ofNames leads.are
  have origin : d.origin (ofNames names.reverse) = ([slash], .folder) := by
    simp [Disk.origin, isAbsolute, ofNames, settled.root]
  have skip : d.step ([slash], .folder) [] = .ok ([slash], .folder) := rfl
  have walk := leads.walk
  rw [find_eq_walk (by simp [ofNames]) plain, origin, split_ofNames leads.parts, Disk.walk,
    List.foldlM_cons, skip]
  split
  · next none =>
    rw [none] at walk ⊢
    exact walk
  · exact walk

/-- One more name leads on to what the names then add up to. -/
theorem step (settled : d.Settled) (leads : d.Leads names node) {name : Text}
    (plain : slash ∉ name) (noZero : 0 ∉ name) {goal : Text × Node}
    (step : d.step (ofNames names.reverse, node) name = .ok goal) :
    goal.1 = ofNames (descend true names name).reverse ∧
      d.Leads (descend true names name) goal.2 := by
  cases node with
  | file | database => cases step
  | folder =>
    rw [step_folder] at step
    unfold descend
    split at step
    · next here =>
      cases step
      rw [if_pos here]
      exact ⟨rfl, leads⟩
    next elsewhere =>
    rw [not_or] at elsewhere
    rw [if_neg (not_or.mpr elsewhere)]
    split at step
    · next up =>
      rw [if_pos up]
      cases leads with
      | root =>
        have stands := Leads.root.stands settled
        cases step
        rw [List.reverse_nil, directory_root]
        rw [List.reverse_nil] at stands
        exact ⟨rfl, stands.symm ▸ .root⟩
      | @into above last _ folder is short there =>
        have stands := folder.stands settled
        cases step
        rw [List.reverse_cons, directory_ofNames folder.parts is.toIsPart, stands]
        simpa [is.notAbove] using folder
    next down =>
    have is : IsName name := ⟨⟨elsewhere.1, plain, elsewhere.2, down⟩, noZero⟩
    rw [if_neg down]
    split at step
    · cases step
    next short =>
    split at step
    · next found =>
      cases step
      rw [child_ofNames leads.parts, ← List.reverse_cons] at found ⊢
      exact ⟨rfl, leads.into is short found⟩
    · cases step

/-- The way along any names ends where the names that they add up to lead. -/
theorem of_walk (settled : d.Settled) {more : List Text} (plain : ∀ n ∈ more, slash ∉ n ∧ 0 ∉ n)
    (leads : d.Leads names node) {goal : Text × Node}
    (walk : d.walk (ofNames names.reverse, node) more = .ok goal) :
    goal.1 = ofNames (more.foldl (descend true) names).reverse ∧
      d.Leads (more.foldl (descend true) names) goal.2 := by
  induction more generalizing names node with
  | nil =>
    cases walk
    exact ⟨rfl, leads⟩
  | cons name more ih =>
    obtain ⟨first, plain⟩ := List.forall_mem_cons.mp plain
    obtain ⟨⟨here, next⟩, step, walk⟩ := walk_cons walk
    obtain ⟨rfl, leads⟩ := leads.step settled first.1 first.2 step
    exact ih plain leads walk

end Leads

/-- The names of the folder from which a path starts, last name first. -/
theorem Settled.exists_names (settled : d.Settled) :
    ∃ names, d.directory = ofNames names.reverse ∧ d.Leads names .folder := by
  obtain ⟨-, plain, walk⟩ := walk_of_find settled.directory
  have origin : d.origin d.directory = (ofNames [].reverse, .folder) := by
    simp [Disk.origin, settled.absolute, settled.root, ofNames, Text.join]
  rw [origin] at walk
  obtain ⟨same, leads⟩ := Leads.root.of_walk settled (plain_of_mem_split plain) walk
  exact ⟨_, same, leads⟩

/-- What a path leads to is found at its canonical path, and by it. -/
theorem find_canonical (settled : d.Settled) {path place : Text} {node : Node}
    (found : d.find path = .ok (place, node)) :
    Path.canonical d.directory path = .ok place ∧ d.find place = .ok (place, node) := by
  obtain ⟨base, at_, folder⟩ := settled.exists_names
  obtain ⟨full, plain, walk⟩ := walk_of_find found
  have parts := plain_of_mem_split plain
  rw [Path.canonical, if_neg full, at_, absolute_ofNames folder.parts]
  by_cases rooted : isAbsolute path = true
  · have origin : d.origin path = (ofNames [].reverse, .folder) := by
      simp [Disk.origin, rooted, settled.root, ofNames, Text.join]
    rw [origin] at walk
    obtain ⟨rfl, leads⟩ := Leads.root.of_walk settled parts walk
    rw [if_pos rooted]
    exact ⟨rfl, leads.find settled⟩
  · have origin : d.origin path = (ofNames base.reverse, .folder) := by
      simp [Disk.origin, rooted, at_, folder.stands settled]
    rw [origin] at walk
    obtain ⟨rfl, leads⟩ := folder.of_walk settled parts walk
    rw [if_neg rooted, List.reverse_reverse]
    exact ⟨rfl, leads.find settled⟩

/-- A file reads the same by its canonical path. -/
theorem read_canonical (settled : d.Settled) {path text : Text} (read : d.read path = .ok text) :
    ∃ place, Path.canonical d.directory path = .ok place ∧ d.read place = .ok text := by
  simp only [Disk.read, Disk.openAt] at read
  split at read
  · next place node found =>
    obtain ⟨canonical, again⟩ := find_canonical settled found
    refine ⟨place, canonical, ?_⟩
    simp only [Disk.read, Disk.openAt, again]
    cases node with
    | folder => cases read
    | file | database => exact read
  · cases read

end Disk

end Gamebook
