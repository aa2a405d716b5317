import Gamebook.Transcript.Memory
import Mathlib.Data.List.Basic

/-! # What memory keeps

A call is about one session, and leaves all others as they are. The headers of all sessions in the
order in which they came in are `Memory.all`; what is kept of one session is `Memory.kept?`.
-/

namespace Gamebook.Transcript.Memory

variable {m : Memory} {id : Text}

/-- The headers of all sessions, oldest first. -/
def all (m : Memory) : List Header :=
  m.order.filterMap m.session?

/-! ## Sessions in order -/

theorem mem_order_iff_knows : id ∈ m.order ↔ m.knows id = true :=
  m.mem_order id

theorem isSome_session? : (m.session? id).isSome = m.knows id :=
  rfl

/-- No name of the order is without a session. -/
theorem map_id_filterMap {ids : List Text} (known : ∀ id ∈ ids, id ∈ m.order) :
    (ids.filterMap m.session?).map Header.id = ids := by
  induction ids with
  | nil => rfl
  | cons id rest ih =>
    obtain ⟨here, others⟩ := List.forall_mem_cons.mp known
    obtain ⟨header, found⟩ := Option.isSome_iff_exists.mp ((m.mem_order id).mp here)
    rw [List.filterMap_cons_some (f := m.session?) found, List.map_cons, ih others,
      m.id_of_get? id header found]

theorem map_id_all : m.all.map Header.id = m.order :=
  map_id_filterMap fun _ member => member

/-- The order leads to every session. -/
theorem find?_all : m.all.find? (·.id = id) = m.session? id := by
  cases found : m.all.find? (·.id = id) with
  | none =>
    cases kept : m.session? id with
    | none => rfl
    | some header =>
      have known : id ∈ m.order := (m.mem_order id).mpr (Option.isSome_of_eq_some kept)
      have member : header ∈ m.all := List.mem_filterMap.mpr ⟨id, known, kept⟩
      have named : header.id = id := m.id_of_get? id header kept
      simpa [named] using List.find?_eq_none.mp found header member
  | some header =>
    obtain ⟨other, -, kept⟩ := List.mem_filterMap.mp (List.mem_of_find?_eq_some found)
    have here : header.id = id := by simpa using List.find?_some found
    have there : header.id = other := m.id_of_get? other header kept
    rw [← here, there, kept]

/-! ## Limits -/

/-- The loop stops where a cut would be made. -/
theorem collect_eq (limit : Int) (ids : List Text) (found : List Header)
    (few : 0 < limit → found.length ≤ limit) :
    m.collect limit ids found =
      if 0 < limit then (found ++ ids.filterMap m.session?).take limit.toNat
      else found ++ ids.filterMap m.session? := by
  induction ids generalizing found with
  | nil =>
    rw [collect, List.filterMap_nil, List.append_nil]
    split
    · next positive =>
      have := few positive
      rw [List.take_of_length_le (by omega)]
    · rfl
  | cons id rest ih =>
    rw [collect]
    split
    · next enough =>
      have full : limit.toNat = found.length := by omega
      rw [if_pos enough.1, full, List.take_left]
    · next short =>
      have one : (m.session? id).toList.length ≤ 1 := by
        cases m.session? id <;> simp
      have few : 0 < limit → (found ++ (m.session? id).toList).length ≤ limit := by
        intro positive
        have before := few positive
        have other : (found.length : Int) ≠ limit := fun full => short ⟨positive, full⟩
        rw [List.length_append]
        omega
      have next : (id :: rest).filterMap m.session? =
          (m.session? id).toList ++ rest.filterMap m.session? := by
        rw [List.filterMap_cons]
        cases m.session? id <;> rfl
      rw [ih _ few, next, List.append_assoc]

theorem headers_eq (limit : Int) :
    m.headers limit = if 0 < limit then m.all.reverse.take limit.toNat else m.all.reverse := by
  have reversed : m.order.reverse.filterMap m.session? = m.all.reverse := List.filterMap_reverse
  rw [headers, collect_eq limit _ [] Int.le_of_lt, List.nil_append, reversed]

theorem entries_eq (limit : Int) :
    m.entries id limit =
      if 0 < limit then (m.eventsOf id).take limit.toNat else m.eventsOf id := by
  unfold entries
  by_cases positive : 0 < limit
  · by_cases more : limit < (m.eventsOf id).length
    · rw [if_pos ⟨positive, more⟩, if_pos positive]
    · rw [if_neg fun both => more both.2, if_pos positive, List.take_of_length_le (by omega)]
  · rw [if_neg fun both => positive both.1, if_neg positive]

/-! ## Calls -/

theorem eventsOf_of_unknown (unknown : m.knows id = false) : m.eventsOf id = [] := by
  have none : m.events.get? id = none := by
    rw [← Option.not_isSome_iff_eq_none]
    intro some
    have known : m.knows id = true := m.known_of_events id some
    rw [unknown] at known
    cases known
  rw [eventsOf, none, Option.getD_none]

section

variable {id' entry kind address detail outcome : Text}

theorem fst_start : (m.start id entry).1 = if m.knows id then some (alreadyExists id) else none := by
  unfold start
  split <;> rfl

theorem fst_append : (m.append id kind address detail).1 =
    if m.knows id then none else some (unknownSession id) := by
  unfold append
  split <;> rfl

theorem fst_close : (m.close id outcome).1 =
    if m.knows id then none else some (unknownSession id) := by
  unfold close
  split
  · next missing => rw [if_neg (by simp [knows, missing])]
  · next found => rw [if_pos (by simp [knows, found])]

theorem start_of_known (known : m.knows id = true) :
    (m.start id entry).2 = m := by
  rw [start, dif_pos known]

theorem append_of_unknown (unknown : m.knows id = false) :
    (m.append id kind address detail).2 = m := by
  rw [append, dif_neg (by simp [unknown])]

theorem close_of_unknown (unknown : m.knows id = false) : (m.close id outcome).2 = m := by
  unfold close
  split
  · rfl
  · next found => simp [knows, found] at unknown

theorem order_start : (m.start id entry).2.order =
    if m.knows id then m.order else m.order ++ [id] := by
  unfold start
  split <;> rfl

theorem order_append : (m.append id kind address detail).2.order = m.order := by
  unfold append
  split <;> rfl

theorem order_close : (m.close id outcome).2.order = m.order := by
  unfold close
  split <;> rfl

theorem session?_start (unknown : m.knows id = false) :
    (m.start id entry).2.session? id' = if id' = id then some { id, entry } else m.session? id' := by
  rw [start, dif_neg (by simp [unknown])]
  exact Register.get?_set ..

theorem session?_append : (m.append id kind address detail).2.session? id' = m.session? id' := by
  unfold append
  split <;> rfl

/-- A session that is ended, and any other as it was. -/
def ended (id outcome : Text) (h : Header) : Header :=
  if h.id = id then { h with ended := true, outcome } else h

theorem session?_close :
    (m.close id outcome).2.session? id' = (m.session? id').map (ended id outcome) := by
  have named : ∀ other header, m.session? other = some header → header.id = other := m.id_of_get?
  unfold close
  split
  · next missing =>
    change m.session? id' = _
    cases found : m.session? id' with
    | none => rfl
    | some header =>
      have other : header.id ≠ id := by
        intro same
        have missing : m.session? id = none := missing
        rw [← same, named id' header found, found] at missing
        cases missing
      rw [Option.map_some, ended, if_neg other]
  · next header found =>
    refine (Register.get?_set ..).trans ?_
    split
    · next same =>
      rw [same, session?, found, Option.map_some, ended, if_pos (named id header found)]
    · next other =>
      change m.session? id' = _
      cases found : m.session? id' with
      | none => rfl
      | some header' =>
        rw [Option.map_some, ended, if_neg (named id' header' found ▸ other)]

theorem eventsOf_start : (m.start id entry).2.eventsOf id' = m.eventsOf id' := by
  unfold start
  split <;> rfl

theorem eventsOf_append (known : m.knows id = true) :
    (m.append id kind address detail).2.eventsOf id' =
      if id' = id then m.eventsOf id ++ [⟨(m.eventsOf id).length + 1, kind, address, detail⟩]
      else m.eventsOf id' := by
  rw [append, dif_pos known]
  change ((m.events.set id _).get? id').getD [] = _
  rw [Register.get?_set]
  split <;> rfl

theorem eventsOf_close : (m.close id outcome).2.eventsOf id' = m.eventsOf id' := by
  unfold close
  split <;> rfl

theorem getMetadata_start : (m.start id entry).2.getMetadata = m.getMetadata := by
  unfold start
  split <;> rfl

theorem getMetadata_append : (m.append id kind address detail).2.getMetadata = m.getMetadata := by
  unfold append
  split <;> rfl

theorem getMetadata_close : (m.close id outcome).2.getMetadata = m.getMetadata := by
  unfold close
  split <;> rfl

theorem getMetadata_setMetadata {key value other : Text} :
    (m.setMetadata key value).getMetadata other =
      if other = key then value else m.getMetadata other := by
  change ((m.metadata.set key value).get? other).getD [] = _
  rw [Register.get?_set]
  split <;> rfl

theorem all_start (unknown : m.knows id = false) :
    (m.start id entry).2.all = m.all ++ [⟨id, entry, false, []⟩] := by
  have before : m.order.filterMap (m.start id entry).2.session? = m.all := by
    apply List.filterMap_congr
    intro other member
    rw [session?_start unknown, if_neg]
    rintro rfl
    rw [mem_order_iff_knows.mp member] at unknown
    cases unknown
  have now : (m.start id entry).2.session? id = some { id, entry } := by
    rw [session?_start unknown, if_pos rfl]
  rw [all, order_start, unknown, if_neg Bool.false_ne_true, List.filterMap_append, before,
    List.filterMap_cons_some now, List.filterMap_nil]

theorem all_append : (m.append id kind address detail).2.all = m.all := by
  rw [all, order_append]
  exact List.filterMap_congr fun _ _ => session?_append

theorem all_close : (m.close id outcome).2.all = m.all.map (ended id outcome) := by
  rw [all, order_close, all, List.map_filterMap]
  exact List.filterMap_congr fun _ _ => session?_close

end

/-! ## One session -/

/-- What is kept of a session. -/
def kept? (m : Memory) (id : Text) : Option (Header × List Entry) :=
  (m.session? id).map (·, m.eventsOf id)

theorem session?_eq_kept? : m.session? id = (m.kept? id).map Prod.fst := by
  rw [kept?]
  cases m.session? id <;> rfl

theorem knows_eq_isSome : m.knows id = (m.kept? id).isSome := by
  rw [kept?, Option.isSome_map, isSome_session?]

theorem entries_eq_kept? : m.entries id 0 = ((m.kept? id).map Prod.snd).getD [] := by
  rw [entries_eq, if_neg (Int.lt_irrefl 0), kept?]
  cases found : m.session? id with
  | none =>
    have unknown : m.knows id = false := by rw [← isSome_session?, found, Option.isSome_none]
    exact eventsOf_of_unknown unknown
  | some header => rfl

theorem unknown_of_kept? (free : m.kept? id = none) : m.knows id = false := by
  rw [knows_eq_isSome, free, Option.isSome_none]

theorem kept?_start {entry id' : Text} (free : m.kept? id = none) :
    (m.start id entry).2.kept? id' =
      if id' = id then some ({ id, entry }, []) else m.kept? id' := by
  have unknown := unknown_of_kept? free
  rw [kept?, session?_start unknown, eventsOf_start]
  split
  · next same => rw [same, eventsOf_of_unknown unknown, Option.map_some]
  · rfl

theorem kept?_append {kind address detail id' : Text} :
    (m.append id kind address detail).2.kept? id' =
      if id' = id then
        (m.kept? id).map fun s => (s.1, s.2 ++ [⟨s.2.length + 1, kind, address, detail⟩])
      else m.kept? id' := by
  cases known : m.knows id with
  | false =>
    have free : m.kept? id = none := by simpa [knows_eq_isSome] using known
    rw [append_of_unknown known]
    split
    · next same => rw [same, free]; rfl
    · rfl
  | true =>
    rw [kept?, session?_append, eventsOf_append known]
    split
    · next same =>
      rw [same, kept?]
      cases m.session? id <;> rfl
    · rfl

theorem kept?_close {outcome id' : Text} :
    (m.close id outcome).2.kept? id' =
      if id' = id then (m.kept? id).map fun s => ({ s.1 with ended := true, outcome }, s.2)
      else m.kept? id' := by
  rw [kept?, session?_close, eventsOf_close]
  cases found : m.session? id' with
  | none =>
    split
    · next same => rw [kept?, ← same, found]; rfl
    · rw [kept?, found]; rfl
  | some header =>
    have named : header.id = id' := m.id_of_get? id' header found
    rw [Option.map_some, Option.map_some, ended]
    by_cases same : id' = id
    · rw [if_pos (named.trans same), if_pos same, kept?, ← same, found]
      rfl
    · rw [if_neg (named ▸ same), if_neg same, kept?, found]
      rfl

end Gamebook.Transcript.Memory
