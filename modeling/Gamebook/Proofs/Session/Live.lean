import Gamebook.Proofs.Session.Abreast
import Gamebook.Transcript

/-! # Recording while a session is played

A recorder is told of everything at the moment at which it comes about, and what it answers comes back
to the session: whether the start could be recorded decides whether anything else is. A session that
is recorded is played beside one that nobody records. Whatever the recorder answers, the two stay the
same, and what is recorded is what would have been recorded afterwards.
-/

namespace Gamebook

variable {σ υ ρ κ : Type}

namespace Transcript

/-! ## A tape on which events are recorded -/

namespace Tape

variable (recorder : Recorder ρ) (id : Text) (t : Tape ρ)

/-- The tape after an event was recorded. -/
def record (e : Event) : Tape ρ :=
  let (log, r) := t.toRecording.record recorder id e
  { r with log := t.log ++ log }

/-- The tape after events were recorded in turn. -/
def recordAll (es : List Event) : Tape ρ :=
  let (log, r) := t.toRecording.recordAll recorder id es
  { r with log := t.log ++ log }

theorem recordAll_nil : t.recordAll recorder id [] = t := by
  simp [recordAll, Recording.recordAll]

theorem recordAll_cons (e : Event) (es : List Event) :
    t.recordAll recorder id (e :: es) = (t.record recorder id e).recordAll recorder id es := by
  simp [recordAll, record, Recording.recordAll]

theorem recordAll_concat (es : List Event) (e : Event) :
    t.recordAll recorder id (es ++ [e]) = (t.recordAll recorder id es).record recorder id e := by
  induction es generalizing t with
  | nil => rw [List.nil_append, recordAll_cons, recordAll_nil, recordAll_nil]
  | cons first rest ih => rw [List.cons_append, recordAll_cons, ih, recordAll_cons]

/-- What happens is recorded once the start was. -/
theorem began_record_happened (moment : Moment) (address detail : Text) :
    (t.record recorder id (.happened moment address detail)).began = t.began := by
  unfold record Recording.record
  cases began : t.began with
  | false => simp [began]
  | true => simp

end Tape

/-! ## What the session asks of its recorder -/

section Calls

variable (recorder : Recorder ρ) (p : Play σ (Tape ρ))

theorem events_written (failure? : Option Failure) (t : Tape ρ) (message : Text)
    (fields : List (Text × Log.Value)) :
    letI := recorder.crew
    (p.written (failure?, t) message fields).events =
      { t with log := t.log ++ Recording.warning p.session.id message fields failure? } := by
  cases failure? with
  | none => simp [Play.written, Recording.warning]
  | some failure => rfl

theorem events_announced (entry : Address) :
    letI := recorder.crew
    (p.announced entry).events = p.events.record recorder p.session.id (.began entry.text) := by
  rcases started : recorder.start p.session.id entry.text p.events.keeper with ⟨- | failure, keeper⟩
  · simp [Play.announced, Crew.start, Crew.confirm, Tape.record, Recording.record,
      Recording.warning, started]
  · simp [Play.announced, Crew.start, Play.warn, Play.note, Crew.log, Tape.record,
      Recording.record, Recording.warning, started]

theorem events_happen (moment : Moment) (detail : Text) :
    letI := recorder.crew
    (p.happen moment detail).events =
      p.events.record recorder p.session.id (.happened moment p.session.eventAddress detail) := by
  let _ := recorder.crew
  cases began : p.events.began with
  | false => simp [Play.happen, Crew.began, Tape.record, Recording.record, began]
  | true =>
    have asked : p.happen moment detail =
        p.written (Crew.append p.session.id moment p.session.eventAddress detail p.events)
          "transcript append failed" [("kind", .text moment.text)] := if_pos began
    rw [asked]
    refine (events_written ..).trans ?_
    simp [Tape.record, Recording.record, began]

theorem events_written_close (outcome : Code) (began : p.events.began = true) :
    letI := recorder.crew
    (p.written (Crew.close p.session.id outcome p.events) "transcript end failed" []).events =
      p.events.record recorder p.session.id (.closed outcome) := by
  refine (events_written ..).trans ?_
  simp [Tape.record, Recording.record, began]

theorem events_closed (f : Failure) :
    letI := recorder.crew
    (p.closed f).events = (p.events.record recorder p.session.id
      (.happened .ending p.session.eventAddress f.text)).record recorder p.session.id
        (.closed f.code) := by
  let _ := recorder.crew
  have told := events_happen recorder p .ending f.text
  have named : (p.happen .ending f.text).session = p.session := (p.retaped_happen _ _).session
  cases began : p.events.began with
  | false => simp [Play.closed, Crew.began, Tape.record, Recording.record, began]
  | true =>
    have still : (p.happen .ending f.text).events.began = true := by
      rw [told, Tape.began_record_happened, began]
    have asked : p.closed f = (p.happen .ending f.text).written
        (Crew.close (p.happen .ending f.text).session.id f.code (p.happen .ending f.text).events)
          "transcript end failed" [] := if_pos began
    rw [asked, events_written_close recorder _ f.code still, told, named]

end Calls

/-- Recording at once comes to the same as recording afterwards. -/
theorem Recorder.crew_matches (recorder : Recorder ρ) (t : Tape ρ) :
    letI := recorder.crew
    Crew.Matches fun id (es : List Event) (u : Tape ρ) => u = t.recordAll recorder id es := by
  let _ := recorder.crew
  refine ⟨rfl, ?_, ?_, ?_, ?_⟩
  · rintro id es u entry rfl
    exact (Tape.recordAll_concat recorder id t es (.logged entry)).symm
  · intro σ υ p q entry session events
    rw [events_announced, session, events, Play.announced_eq]
    exact (Tape.recordAll_concat ..).symm
  · intro σ υ p q moment detail session events
    rw [events_happen, session, events, Play.happen_eq]
    exact (Tape.recordAll_concat ..).symm
  · intro σ υ p q f session events
    rw [events_closed, session, events, Play.closed_eq, ← Tape.recordAll_concat,
      ← Tape.recordAll_concat]
    rfl

/-- The log of a session that nobody records tells nothing of a recorder. -/
theorem unrecorded_matches (t : Tape ρ) :
    letI : Crew (Tape ρ) := unrecorded
    Crew.Matches fun _ (es : List Event) (u : Tape ρ) =>
      u = { t with log := t.log ++ unrecordedLog es } := by
  let _ : Crew (Tape ρ) := unrecorded
  refine ⟨rfl, ?_, ?_, ?_, ?_⟩
  · rintro id es u entry rfl
    simp [Crew.log, unrecordedLog]
  · intro σ υ p q entry session events
    rw [Play.announced_eq]
    simp [Play.announced, Crew.start, Crew.confirm, Play.emit, events, unrecordedLog]
  · intro σ υ p q moment detail session events
    rw [Play.happen_eq]
    simp [Play.happen, Crew.began, Play.emit, events, unrecordedLog]
  · intro σ υ p q f session events
    rw [Play.closed_eq, Play.happen_eq]
    simp [Play.closed, Crew.began, Play.emit, events, unrecordedLog]

end Transcript

/-! ## With a recorder or without -/

namespace Play

/-- What can be seen of a session after a call: the answer, the session itself, what its loader has
    read, and the world with all that its host was asked to show there. -/
def visible {τ : Type} (r : Option Failure × Play σ τ) : Option Failure × Session × Loader × σ :=
  (r.1, r.2.session, r.2.loader, r.2.world)

/-- The play with another tape. -/
def onTape {τ : Type} (p : Play σ) (tape : τ) : Play σ τ :=
  ⟨p.session, p.loader, p.world, tape⟩

section OnTape

variable {τ : Type} (crew : Crew τ) {tape : Text → List Event → τ}

theorem Same.onTape {r : Option Failure × Play σ} {s : Option Failure × Play σ τ}
    (same : Same Eq (fun id es u => u = tape id es) r s) :
    s = (r.1, r.2.onTape (tape r.2.session.id r.2.events)) := by
  obtain ⟨answer, ⟨rfl, rfl⟩⟩ := same
  rfl

theorem abreast_onTape (p : Play σ) :
    Abreast Eq (fun id es u => u = tape id es) p (p.onTape (tape p.session.id p.events)) :=
  .intro rfl rfl

variable (crews : Crew.Matches fun id es u => u = tape id es) (h : Host σ) (p : Play σ)
include crews

/-- A run that is written down in another way leads to the same play with another tape. -/
theorem run_onTape (player : Player σ) (entry : Address) :
    (p.onTape (tape p.session.id p.events)).run h (some player) entry =
      ((p.run h (some player) entry).1, (p.run h (some player) entry).2.onTape
        (tape (p.run h (some player) entry).2.session.id
          (p.run h (some player) entry).2.events)) := by
  have same := p.abreast_onTape.run crews (Host.matches_self h)
    player.matches_self (List.Subset.refl (p.soughtBy h (.run (some player) entry)))
  exact same.onTape

/-- Calls that are written down in another way lead to the same plays with other tapes. -/
theorem performAll_onTape (deeds : List (Deed σ)) :
    (p.onTape (tape p.session.id p.events)).performAll h deeds =
      (p.performAll h deeds).map fun r => (r.1, r.2.onTape (tape r.2.session.id r.2.events)) := by
  have same := p.abreast_onTape.performAll crews (Host.matches_self h)
    (List.forall₂_same.mpr fun d _ => d.matches_self) (List.Subset.refl (p.soughtAll h deeds))
  symm
  rw [← List.forall₂_eq_eq_eq, List.forall₂_map_left_iff]
  exact same.imp fun _ _ same => same.onTape.symm

end OnTape

end Play

/-- Recording has no influence on a session. Whatever its recorder answers to whichever call, every
    call on the session is answered in the same way and leaves the session and the world the same as
    if nobody recorded it; and recording at once comes to the same as recording afterwards. -/
theorem recording_never_influences_play (h : Host σ) (recorder : Transcript.Recorder ρ)
    (t : Transcript.Tape ρ) (u : Transcript.Tape κ) (s : Session) (l : Loader) (w : σ)
    (deeds : List (Deed σ)) :
    let recorded := Play.performAll (c := recorder.crew) h ⟨s, l, w, t⟩ deeds
    let unrecorded := Play.performAll (c := Transcript.unrecorded) h ⟨s, l, w, u⟩ deeds
    let played := Play.performAll h ⟨s, l, w, []⟩ deeds
    recorded.map Play.visible = unrecorded.map Play.visible ∧
      recorded = played.map (fun (answer, p) => (answer,
        p.onTape (t.recordAll recorder p.session.id p.events))) ∧
      unrecorded = played.map (fun (answer, p) => (answer,
        p.onTape { u with log := u.log ++ Transcript.unrecordedLog p.events })) := by
  intro recorded unrecorded played
  have atOnce : recorded = played.map (fun (answer, p) => (answer,
      p.onTape (t.recordAll recorder p.session.id p.events))) := by
    have same := Play.performAll_onTape recorder.crew (recorder.crew_matches t) h ⟨s, l, w, []⟩ deeds
    rw [t.recordAll_nil] at same
    exact same
  have silent : unrecorded = played.map (fun (answer, p) => (answer,
      p.onTape { u with log := u.log ++ Transcript.unrecordedLog p.events })) := by
    have same := Play.performAll_onTape Transcript.unrecorded (Transcript.unrecorded_matches u) h
      ⟨s, l, w, []⟩ deeds
    rw [show u.log ++ Transcript.unrecordedLog [] = u.log from List.append_nil _] at same
    exact same
  refine ⟨?_, atOnce, silent⟩
  rw [atOnce, silent, List.map_map, List.map_map]
  rfl

end Gamebook
