import Gamebook.Transcript

/-! # Transcripts in memory

Memory keeps the headers of sessions, the order in which they came in and the entries of each session
in three places, by the names of the sessions. What joins them is part of the memory itself.
-/

namespace Gamebook

/-- Values by names. A name has one value at most. -/
structure Register (α : Type) where
  pairs : List (Text × α) := []
  deriving DecidableEq, Repr, Inhabited

namespace Register

variable {α : Type}

/-- The value of a name. -/
def get? (r : Register α) (name : Text) : Option α :=
  r.pairs.lookup name

/-- The register with a name set to a value, whatever its value was. -/
def set (name : Text) (value : α) (r : Register α) : Register α :=
  ⟨(name, value) :: r.pairs.filter fun p => p.1 ≠ name⟩

theorem not_isSome_get?_empty (name : Text) : ¬(({} : Register α).get? name).isSome := by
  simp [get?]

theorem lookup_filter_ne {name other : Text} (ne : other ≠ name) (pairs : List (Text × α)) :
    (pairs.filter fun p => p.1 ≠ name).lookup other = pairs.lookup other := by
  induction pairs with
  | nil => rfl
  | cons pair rest ih =>
    obtain ⟨key, value⟩ := pair
    by_cases drop : key = name
    · have skip : (other == key) = false := by simp [drop, ne]
      rw [List.filter_cons_of_neg (by simpa using drop), ih, List.lookup_cons, skip]
    · rw [List.filter_cons_of_pos (by simpa using drop), List.lookup_cons, List.lookup_cons, ih]

theorem get?_set (r : Register α) (name other : Text) (value : α) :
    (r.set name value).get? other = if other = name then some value else r.get? other := by
  unfold get? set
  by_cases here : other = name
  · simp [here]
  · have skip : (other == name) = false := by simp [here]
    rw [if_neg here, List.lookup_cons, skip]
    exact lookup_filter_ne here r.pairs

theorem isSome_get?_set {r : Register α} {name : Text} (known : (r.get? name).isSome) (other : Text)
    (value : α) : ((r.set name value).get? other).isSome = (r.get? other).isSome := by
  rw [get?_set]
  split
  · next same => rw [same, known, Option.isSome_some]
  · rfl

end Register

namespace Transcript

/-- Transcripts that last as long as the program. -/
structure Memory where
  sessions : Register Header := {}
  /-- The names of the sessions, oldest first. -/
  order : List Text := []
  events : Register (List Entry) := {}
  metadata : Register Text := {}
  /-- The order holds the name of every session, and no other. -/
  mem_order : ∀ id, id ∈ order ↔ (sessions.get? id).isSome := by
    exact fun id => ⟨fun member => absurd member List.not_mem_nil,
      fun known => absurd known (Register.not_isSome_get?_empty id)⟩
  /-- Every session came in once. -/
  nodup_order : order.Nodup := by exact List.nodup_nil
  /-- A session is kept under its own name. -/
  id_of_get? : ∀ id header, sessions.get? id = some header → header.id = id := by
    exact fun id _ found =>
      absurd (Option.isSome_of_eq_some found) (Register.not_isSome_get?_empty id)
  /-- Only sessions have entries. -/
  known_of_events : ∀ id, (events.get? id).isSome → (sessions.get? id).isSome := by
    exact fun id entered => absurd entered (Register.not_isSome_get?_empty id)
  deriving DecidableEq, Repr

namespace Memory

/-- Memory without any session. -/
def empty : Memory :=
  {}

instance : Inhabited Memory :=
  ⟨empty⟩

/-- Whether a session is known. -/
def knows (m : Memory) (id : Text) : Bool :=
  (m.sessions.get? id).isSome

/-- The entries of a session so far. -/
def eventsOf (m : Memory) (id : Text) : List Entry :=
  (m.events.get? id).getD []

/-- Starts a session. -/
def start (id entry : Text) (m : Memory) : Option Failure × Memory :=
  if known : m.knows id then (some (alreadyExists id), m)
  else
    (none, { m with
      sessions := m.sessions.set id ⟨id, entry, false, []⟩
      order := m.order ++ [id]
      mem_order := by
        intro other
        rw [List.mem_append, List.mem_singleton, m.mem_order, Register.get?_set]
        split
        · next same => simp [same]
        · next ne => simp [ne]
      nodup_order := by
        refine List.nodup_append.mpr ⟨m.nodup_order, by simp, fun a before b now same => known ?_⟩
        rw [same, List.mem_singleton.mp now] at before
        exact (m.mem_order id).mp before
      id_of_get? := by
        intro other header found
        rw [Register.get?_set] at found
        split at found
        · next same =>
          cases found
          exact same.symm
        · exact m.id_of_get? other header found
      known_of_events := by
        intro other some
        rw [Register.get?_set]
        split
        · rfl
        · exact m.known_of_events other some })

/-- Adds an entry to a session, numbered by how many there are. -/
def append (id kind address detail : Text) (m : Memory) : Option Failure × Memory :=
  if known : m.knows id then
    let before := m.eventsOf id
    (none, { m with
      events := m.events.set id (before ++ [⟨before.length + 1, kind, address, detail⟩])
      known_of_events := by
        intro other some
        rw [Register.get?_set] at some
        split at some
        · next same => exact same ▸ known
        · exact m.known_of_events other some })
  else (some (unknownSession id), m)

/-- Ends a session. -/
def close (id outcome : Text) (m : Memory) : Option Failure × Memory :=
  match found : m.sessions.get? id with
  | none => (some (unknownSession id), m)
  | some header =>
    have same (other : Text) : ((m.sessions.set id { header with ended := true, outcome }).get?
        other).isSome = (m.sessions.get? other).isSome :=
      Register.isSome_get?_set (by rw [found]; rfl) other _
    (none, { m with
      sessions := m.sessions.set id { header with ended := true, outcome }
      mem_order := fun other => by rw [same]; exact m.mem_order other
      id_of_get? := by
        intro other header' got
        rw [Register.get?_set] at got
        split at got
        · next here =>
          cases got
          exact here ▸ m.id_of_get? id header found
        · exact m.id_of_get? other header' got
      known_of_events := fun other some => by rw [same]; exact m.known_of_events other some })

/-- The header of a session. -/
def session? (m : Memory) (id : Text) : Option Header :=
  m.sessions.get? id

/-- The headers of sessions in turn, after those found before, until there are enough. -/
def collect (m : Memory) (limit : Int) : List Text → List Header → List Header
  | [], found => found
  | id :: rest, found =>
    if 0 < limit ∧ found.length = limit then found
    else m.collect limit rest (found ++ (m.session? id).toList)

/-- The headers of the sessions, newest first. -/
def headers (m : Memory) (limit : Int) : List Header :=
  m.collect limit m.order.reverse []

/-- The entries of a session, oldest first. -/
def entries (m : Memory) (id : Text) (limit : Int) : List Entry :=
  let all := m.eventsOf id
  if 0 < limit ∧ limit < all.length then all.take limit.toNat else all

/-- The value of a key, or the empty text. -/
def getMetadata (m : Memory) (key : Text) : Text :=
  (m.metadata.get? key).getD []

/-- Sets the value of a key. -/
def setMetadata (key value : Text) (m : Memory) : Memory :=
  { m with metadata := m.metadata.set key value }

/-- Memory as a recorder. -/
def recorder : Recorder Memory :=
  { start, append, close }

end Memory

end Transcript

end Gamebook
