import Gamebook.Proofs.Transcript.Memory
import Gamebook.Transcript.Tables
import Mathlib.Data.List.Induction
import Mathlib.Data.List.Nodup

/-! # Tables hold what memory holds

Memory keeps headers, order and entries by the names of sessions; tables keep all entries in one place
and number rows by the greatest number so far. `Holds` ties the two together: sessions are numbered
from one in the order in which they came in, and the entries of each session from one in theirs.
Every call keeps that up, and both kinds of transcripts answer it alike.
-/

namespace Gamebook.Transcript

/-! ## Numbers -/

theorem greatest_range' (n : Nat) : greatest (List.range' 1 n) = n := by
  induction n with
  | zero => rfl
  | succ n ih =>
    rw [greatest, List.range'_1_concat, List.foldl_concat]
    rw [greatest] at ih
    rw [ih]
    change max n (1 + n) = n + 1
    omega

theorem insertBy_last {α : Type} (key : α → Nat) (a : α) (l : List α)
    (low : ∀ b ∈ l, key b ≤ key a) : insertBy key a l = l ++ [a] := by
  induction l with
  | nil => rfl
  | cons b rest ih =>
    obtain ⟨first, others⟩ := List.forall_mem_cons.mp low
    rw [insertBy, if_neg (Nat.not_lt.mpr first), ih others, List.cons_append]

/-- What is in order stays as it is. -/
theorem orderedBy_eq_self {α : Type} (key : α → Nat) {l : List α}
    (ordered : (l.map key).Pairwise (· ≤ ·)) : orderedBy key l = l := by
  rw [List.pairwise_map] at ordered
  induction l using List.reverseRecOn with
  | nil => rfl
  | append_singleton l a ih =>
    obtain ⟨front, -, low⟩ := List.pairwise_append.mp ordered
    rw [orderedBy, List.foldl_concat]
    rw [orderedBy] at ih
    rw [ih front]
    exact insertBy_last key a l fun b member => low b member a (List.mem_singleton_self a)

theorem orderedBy_of_numbered {α : Type} (key : α → Nat) {l : List α} {n : Nat}
    (numbered : l.map key = List.range' 1 n) : orderedBy key l = l := by
  apply orderedBy_eq_self
  rw [numbered]
  exact List.pairwise_le_range'

/-! ## Keys -/

namespace Tables

variable (t : Tables) (key value other : Text)

theorem getMetadata_setMetadata :
    (t.setMetadata key value).getMetadata other =
      if other = key then value else t.getMetadata other := by
  unfold setMetadata
  split
  · next present =>
    -- The row of the key is rewritten in its place; no other row is.
    have kept : (fun row : Text × Text => decide (row.1 = other)) ∘
        (fun row => if row.1 = key then (key, value) else row) = fun row => decide (row.1 = other) := by
      funext row
      by_cases here : row.1 = key <;> simp [here]
    rw [getMetadata, getMetadata, List.find?_map, kept, Option.map_map]
    cases found : t.metadata.find? fun row => row.1 = other with
    | none =>
      have absent : other ≠ key := by
        rintro rfl
        obtain ⟨row, member, here⟩ := List.any_eq_true.mp present
        exact List.find?_eq_none.mp found row member here
      rw [if_neg absent]
      rfl
    | some row =>
      have here : row.1 = other := by simpa using List.find?_some found
      by_cases same : other = key
      · simp [here, same]
      · simp [here, same]
  · next absent =>
    rw [getMetadata, getMetadata, List.find?_append]
    have missing : t.metadata.find? (fun row => row.1 = key) = none := by
      rw [List.find?_eq_none]
      intro row member here
      exact absent (List.any_eq_true.mpr ⟨row, member, here⟩)
    by_cases same : other = key
    · simp [same, missing]
    · simp [same, Ne.symm same]

theorem sessions_setMetadata : (t.setMetadata key value).sessions = t.sessions := by
  unfold setMetadata
  split <;> rfl

theorem entries_setMetadata : (t.setMetadata key value).entries = t.entries := by
  unfold setMetadata
  split <;> rfl

end Tables

/-! ## Both side by side -/

/-- That tables hold the transcripts of memory, and the version of the tables besides. -/
structure Holds (t : Tables) (m : Memory) : Prop where
  headers : t.sessions.map SessionRow.header = m.all
  rows : t.sessions.map SessionRow.row = List.range' 1 t.sessions.length
  entries : ∀ id, (t.entries.filter (·.session = id)).map EntryRow.toEntry = m.eventsOf id
  numbered : ∀ id, (m.eventsOf id).map Entry.seq = List.range' 1 (m.eventsOf id).length
  metadata : ∀ key, key ≠ Tables.versionKey → t.getMetadata key = m.getMetadata key
  version : t.getMetadata Tables.versionKey = Tables.version

theorem holds_empty : Holds .empty .empty where
  headers := rfl
  rows := rfl
  entries _ := rfl
  numbered _ := rfl
  metadata key other := by
    simp [Tables.empty, Tables.getMetadata, Memory.empty, Memory.getMetadata, Register.get?,
      Ne.symm other]
  version := by decide

namespace Holds

variable {t : Tables} {m : Memory} (holds : Holds t m)
include holds

theorem session?_eq (id : Text) : t.session? id = m.session? id := by
  have asked : (t.sessions.map SessionRow.header).find? (·.id = id) = m.session? id := by
    rw [holds.headers, Memory.find?_all]
  rw [List.find?_map] at asked
  exact asked

theorem knows_eq (id : Text) : t.knows id = m.knows id := by
  rw [← Memory.isSome_session?, ← holds.session?_eq, Tables.session?, Option.isSome_map,
    List.isSome_find?]
  rfl

/-- The loop over the sessions and the limit of a query end at the same place. -/
theorem headers_eq (limit : Int) : t.headers limit = m.headers limit := by
  rw [Tables.headers, orderedBy_of_numbered _ holds.rows, List.map_reverse, holds.headers,
    Memory.headers_eq]
  rfl

/-- The rows of a session are its entries, in the order of their numbers. -/
theorem seqs_eq (id : Text) :
    (t.entries.filter (·.session = id)).map EntryRow.seq =
      List.range' 1 (m.eventsOf id).length := by
  have seqs := congrArg (List.map Entry.seq) (holds.entries id)
  rw [List.map_map, holds.numbered id] at seqs
  exact seqs

theorem entries_eq (id : Text) (limit : Int) : t.entriesOf id limit = m.entries id limit := by
  rw [Tables.entriesOf, orderedBy_of_numbered _ (holds.seqs_eq id), holds.entries id,
    Memory.entries_eq]
  rfl

end Holds

/-! ## Calls -/

/-- That a call did the same to both, and nothing if it failed. -/
structure Alike (t : Tables) (m : Memory) (r : Option Failure × Tables)
    (s : Option Failure × Memory) : Prop where
  failed : r.1.isSome = s.1.isSome
  holds : Holds r.2 s.2
  unchanged : s.1.isSome → r.2 = t ∧ s.2 = m

section

variable {t t' : Tables} {m : Memory} {s : Option Failure × Memory}

theorem Alike.done (done : s.1 = none) (holds : Holds t' s.2) : Alike t m (none, t') s where
  failed := by rw [done]
  holds := holds
  unchanged := by simp [done]

theorem Holds.refused {f g : Failure} (holds : Holds t m) (failed : s.1 = some g)
    (same : s.2 = m) : Alike t m (some f, t) s where
  failed := by rw [failed]; rfl
  holds := same ▸ holds
  unchanged _ := ⟨rfl, same⟩

end

namespace Holds

variable {t : Tables} {m : Memory} {id : Text} (holds : Holds t m)
include holds

theorem started (unknown : m.knows id = false) (entry : Text) :
    Holds
      { t with sessions := t.sessions ++
          [⟨greatest (t.sessions.map SessionRow.row) + 1, id, entry, false, []⟩] }
      (m.start id entry).2 where
  headers := by
    rw [Memory.all_start unknown, List.map_append, holds.headers]
    rfl
  rows := by simp [holds.rows, greatest_range', List.range'_1_concat, Nat.add_comm]
  entries id' := by
    rw [Memory.eventsOf_start]
    exact holds.entries id'
  numbered id' := by
    rw [Memory.eventsOf_start]
    exact holds.numbered id'
  metadata := by
    rw [Memory.getMetadata_start]
    exact holds.metadata
  version := holds.version

theorem appended (known : m.knows id = true) (kind address detail : Text) :
    Holds
      { t with entries := t.entries ++
          [⟨id, greatest ((t.entries.filter (·.session = id)).map EntryRow.seq) + 1, kind, address,
            detail⟩] }
      (m.append id kind address detail).2 where
  headers := by
    rw [Memory.all_append]
    exact holds.headers
  rows := holds.rows
  entries id' := by
    rw [Memory.eventsOf_append known]
    by_cases here : id' = id
    · -- The numbers so far are one to the number of entries, so the next one follows on them.
      simp [here, holds.seqs_eq, greatest_range', holds.entries id, EntryRow.toEntry]
    · simp [here, Ne.symm here, holds.entries id']
  numbered id' := by
    rw [Memory.eventsOf_append known]
    split
    · rw [List.map_append, holds.numbered id, List.length_append, List.length_singleton,
        List.range'_1_concat, Nat.add_comm 1]
      rfl
    · exact holds.numbered id'
  metadata := by
    rw [Memory.getMetadata_append]
    exact holds.metadata
  version := holds.version

theorem closed (outcome : Text) :
    Holds
      { t with sessions := t.sessions.map fun r =>
          if r.id = id then { r with ended := true, outcome } else r }
      (m.close id outcome).2 where
  headers := by
    rw [Memory.all_close, ← holds.headers, List.map_map, List.map_map]
    exact List.map_congr_left fun r _ => apply_ite SessionRow.header ..
  rows := by
    rw [List.length_map, ← holds.rows, List.map_map]
    exact List.map_congr_left fun r _ => (apply_ite SessionRow.row ..).trans (ite_self _)
  entries id' := by
    rw [Memory.eventsOf_close]
    exact holds.entries id'
  numbered id' := by
    rw [Memory.eventsOf_close]
    exact holds.numbered id'
  metadata := by
    rw [Memory.getMetadata_close]
    exact holds.metadata
  version := holds.version

theorem start (id entry : Text) : Alike t m (t.start id entry) (m.start id entry) := by
  unfold Tables.start
  rw [holds.knows_eq]
  split
  · next known =>
    exact holds.refused (Memory.fst_start.trans (if_pos known)) (Memory.start_of_known known)
  · next unknown =>
    exact .done (Memory.fst_start.trans (if_neg unknown))
      (holds.started (by simpa using unknown) entry)

theorem append (id kind address detail : Text) :
    Alike t m (t.append id kind address detail) (m.append id kind address detail) := by
  unfold Tables.append
  rw [holds.knows_eq]
  split
  · next known =>
    exact .done (Memory.fst_append.trans (if_pos known)) (holds.appended known kind address detail)
  · next unknown =>
    exact holds.refused (Memory.fst_append.trans (if_neg unknown))
      (Memory.append_of_unknown (by simpa using unknown))

theorem close (id outcome : Text) : Alike t m (t.close id outcome) (m.close id outcome) := by
  unfold Tables.close
  rw [holds.knows_eq]
  split
  · next known => exact .done (Memory.fst_close.trans (if_pos known)) (holds.closed outcome)
  · next unknown =>
    exact holds.refused (Memory.fst_close.trans (if_neg unknown))
      (Memory.close_of_unknown (by simpa using unknown))

theorem setMetadata {key : Text} (other : key ≠ Tables.versionKey) (value : Text) :
    Holds (t.setMetadata key value) (m.setMetadata key value) where
  headers := by
    rw [Tables.sessions_setMetadata]
    exact holds.headers
  rows := by
    rw [Tables.sessions_setMetadata]
    exact holds.rows
  entries := by
    rw [Tables.entries_setMetadata]
    exact holds.entries
  numbered := holds.numbered
  metadata key' other' := by
    rw [Tables.getMetadata_setMetadata, Memory.getMetadata_setMetadata]
    split
    · rfl
    · exact holds.metadata key' other'
  version := by
    rw [Tables.getMetadata_setMetadata, if_neg (Ne.symm other)]
    exact holds.version

/-- Tables that are opened again are the same. -/
theorem reopened_eq : t.reopened = .ok t := by
  rw [Tables.reopened, holds.version]
  rfl

end Holds

end Gamebook.Transcript
