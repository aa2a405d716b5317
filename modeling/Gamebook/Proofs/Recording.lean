import Gamebook.Transcript
import Gamebook.Proofs.Session.View

/-! # What a recorder is asked to keep

Once the start of a session was recorded, every event for transcripts that follows is handed to the
recorder, whether it can keep the earlier ones or not. So what a recorder was asked for tells what
happened in the session.
-/

namespace Gamebook

/-- The kind under which transcripts keep an event. -/
def Event.kind? : Event → Option Text
  | .happened moment _ _ => some moment.text
  | _ => none

def Event.begins : Event → Bool
  | .began _ => true
  | _ => false

namespace Transcript

variable {ρ α : Type}

/-- A recorder that also notes the kind of each entry it is asked to add, whether it can or not. -/
def Recorder.noting (recorder : Recorder ρ) : Recorder (ρ × List Text) where
  start id entry k :=
    let (failure, keeper) := recorder.start id entry k.1
    (failure, keeper, k.2)
  append id kind address detail k :=
    let (failure, keeper) := recorder.append id kind address detail k.1
    (failure, keeper, k.2 ++ [kind])
  close id outcome k :=
    let (failure, keeper) := recorder.close id outcome k.1
    (failure, keeper, k.2)

/-- What a recorder is asked for. Of a start it is also known whether it could be kept. -/
inductive Call where
  | start (id entry : Text) (kept : Bool)
  | append (id kind address detail : Text)
  | close (id outcome : Text)
  deriving DecidableEq, Repr

/-- A recorder that also keeps what `see` makes of each call it gets. -/
def Recorder.watched (recorder : Recorder ρ) (see : Call → List α) : Recorder (ρ × List α) where
  start id entry k :=
    let (failure, keeper) := recorder.start id entry k.1
    (failure, keeper, k.2 ++ see (.start id entry failure.isNone))
  append id kind address detail k :=
    let (failure, keeper) := recorder.append id kind address detail k.1
    (failure, keeper, k.2 ++ see (.append id kind address detail))
  close id outcome k :=
    let (failure, keeper) := recorder.close id outcome k.1
    (failure, keeper, k.2 ++ see (.close id outcome))

/-- The calls that a recorder gets when the events of a session are recorded. -/
def Recorder.calls (recorder : Recorder ρ) (id : Text) (keeper : ρ) (events : List Event) :
    List Call :=
  ((⟨false, keeper, []⟩ : Recording _).recordAll (recorder.watched fun c => [c]) id
    events).2.keeper.2

/-- The call for an event that comes after the start of a session. -/
def Call.ofEvent? (id : Text) : Event → Option Call
  | .happened moment address detail => some (.append id moment.text address detail)
  | .closed outcome => some (.close id outcome.text)
  | .began _ | .logged _ => none

def Call.kinds : Call → List Text
  | .append _ kind _ _ => [kind]
  | .start .. | .close .. => []

theorem Recorder.noting_eq (recorder : Recorder ρ) :
    recorder.noting = recorder.watched Call.kinds := by
  simp [noting, watched, Call.kinds]

namespace Recording

theorem recordAll_cons (recorder : Recorder ρ) (id : Text) (r : Recording ρ) (e : Event)
    (es : List Event) : (r.recordAll recorder id (e :: es)).2 =
      ((r.record recorder id e).2.recordAll recorder id es).2 :=
  rfl

/-- What goes to the log is not recorded. -/
theorem recordAll_told (recorder : Recorder ρ) (id : Text) (r : Recording ρ) (es : List Event) :
    (r.recordAll recorder id (es.filter Event.isTold)).2 = (r.recordAll recorder id es).2 := by
  induction es generalizing r with
  | nil => rfl
  | cons e rest ih =>
    cases e with
    | logged entry => exact ih r
    | began entry => exact ih _
    | happened moment address detail => exact ih _
    | closed outcome => exact ih _

variable (recorder : Recorder ρ) (see : Call → List α) (id : Text)

theorem record_watched (r : Recording (ρ × List α)) {e : Event} (later : e.begins = false) :
    (r.record (recorder.watched see) id e).2.began = r.began ∧
      (r.record (recorder.watched see) id e).2.keeper.2 =
        r.keeper.2 ++ if r.began then (Call.ofEvent? id e).toList.flatMap see else [] := by
  cases e with
  | began entry => cases later
  | logged entry => simp [record, Call.ofEvent?]
  | happened moment address detail =>
    cases began : r.began with
    | false => simp [record, began]
    | true => simp [record, began, Recorder.watched, Call.ofEvent?]
  | closed outcome =>
    cases began : r.began with
    | false => simp [record, began]
    | true => simp [record, began, Recorder.watched, Call.ofEvent?]

theorem recordAll_watched (r : Recording (ρ × List α)) {es : List Event}
    (later : ∀ e ∈ es, e.begins = false) :
    (r.recordAll (recorder.watched see) id es).2.began = r.began ∧
      (r.recordAll (recorder.watched see) id es).2.keeper.2 =
        r.keeper.2 ++ if r.began then (es.filterMap (Call.ofEvent? id)).flatMap see else [] := by
  induction es generalizing r with
  | nil => simp [recordAll]
  | cons e rest ih =>
    obtain ⟨same, seen⟩ := record_watched recorder see id r (later e List.mem_cons_self)
    obtain ⟨same', seen'⟩ := ih (r.record (recorder.watched see) id e).2
      fun e' member => later e' (List.mem_cons_of_mem e member)
    rw [recordAll_cons]
    refine ⟨same'.trans same, ?_⟩
    rw [seen', same, seen]
    cases began : r.began with
    | false => simp
    | true =>
      cases call : Call.ofEvent? id e with
      | none => simp [call]
      | some c => simp [call]

theorem flatMap_kinds (es : List Event) :
    (es.filterMap (Call.ofEvent? id)).flatMap Call.kinds = es.filterMap Event.kind? := by
  induction es with
  | nil => rfl
  | cons e rest ih =>
    cases e <;> simp [List.filterMap_cons, Call.ofEvent?, Call.kinds, Event.kind?, ih]

/-- In a session whose start was recorded, the recorder is asked for an entry of a kind exactly if
    there is an event of that kind. -/
theorem mem_noted_iff (began : Bool) (keeper : ρ) {es : List Event}
    (once : ∀ e ∈ es.tail, e.begins = false)
    (recorded :
      ((⟨began, keeper, []⟩ : Recording _).recordAll recorder.noting id es).2.began = true)
    (kind : Text) :
    kind ∈ ((⟨began, keeper, []⟩ : Recording _).recordAll recorder.noting id es).2.keeper.2 ↔
      ∃ e ∈ es, e.kind? = some kind := by
  rw [← List.mem_filterMap]
  cases es with
  | nil => simp [recordAll]
  | cons e rest =>
    rw [List.tail_cons] at once
    rw [recorder.noting_eq] at recorded ⊢
    cases begins : e.begins with
    | true =>
      -- A beginning decides by itself whether the session is recorded, whatever was so before.
      obtain ⟨same, seen⟩ := recordAll_watched recorder Call.kinds id
        ((⟨began, keeper, []⟩ : Recording _).record (recorder.watched Call.kinds) id e).2 once
      rw [recordAll_cons] at recorded ⊢
      rw [seen, same.symm.trans recorded, flatMap_kinds]
      cases e with
      | began entry => simp [record, Recorder.watched, Call.kinds, Event.kind?]
      | _ => cases begins
    | false =>
      have later : ∀ e' ∈ e :: rest, e'.begins = false := by simpa [begins] using once
      obtain ⟨same, seen⟩ := recordAll_watched recorder Call.kinds id
        (⟨began, keeper, []⟩ : Recording _) later
      rw [seen, same.symm.trans recorded, flatMap_kinds]
      simp

variable (keeper : ρ) {entry : Text} {es : List Event}

theorem calls_eq_nil (later : ∀ e ∈ es, e.begins = false) : recorder.calls id keeper es = [] := by
  rw [Recorder.calls, (recordAll_watched recorder _ id _ later).2]
  rfl

/-- A session is recorded altogether if its start could be recorded, and otherwise not at all. -/
theorem calls_began (later : ∀ e ∈ es, e.begins = false) :
    recorder.calls id keeper (.began entry :: es) =
      if (recorder.start id entry keeper).1.isNone then
        .start id entry true :: es.filterMap (Call.ofEvent? id)
      else [.start id entry false] := by
  rw [Recorder.calls, recordAll_cons, (recordAll_watched recorder _ id _ later).2]
  cases kept : (recorder.start id entry keeper).1.isNone with
  | false => simp [record, Recorder.watched, kept]
  | true => simp [record, Recorder.watched, kept]

theorem calls_told : recorder.calls id keeper (es.filter Event.isTold) =
    recorder.calls id keeper es := by
  rw [Recorder.calls, recordAll_told]
  rfl

end Recording

end Transcript

end Gamebook
