import Gamebook.Session

/-! # Transcripts

A transcript keeps what happened in sessions: a header for each session, and numbered entries. It
is kept by a recorder, who is told of everything while a session is played (`Recorder.crew`), or
afterwards, if the events were kept (`Recording.recordAll`). A session is recorded only if its start
could be recorded; later failures of the recorder are noted in the log and nowhere else.
-/

namespace Gamebook.Transcript

/-- What is known about a session as a whole. -/
structure Header where
  id : Text
  /-- The address of the scene at which the session started. -/
  entry : Text
  /-- Whether the session is over. -/
  ended : Bool := false
  /-- The code of the failure that ended the session. -/
  outcome : Text := []
  deriving DecidableEq, Repr, Inhabited

/-- One thing that happened. Entries are numbered from one. -/
structure Entry where
  seq : Nat
  kind : Text
  address : Text
  detail : Text
  deriving DecidableEq, Repr, Inhabited

/-- The failure to start a session whose name is taken. -/
def alreadyExists (id : Text) : Failure :=
  [.said ("store: session " ++ id ++ " already exists")]

/-- The failure to find a session. -/
def unknownSession (id : Text) : Failure :=
  [.said ("store: unknown session " ++ id)]

/-- Who keeps transcripts, in a state of type `ρ`. Every call may fail. -/
structure Recorder (ρ : Type) where
  /-- Starts a session with its entry. -/
  start : (id entry : Text) → ρ → Option Failure × ρ
  /-- Adds an entry of a kind, with an address and a detail. -/
  append : (id kind address detail : Text) → ρ → Option Failure × ρ
  /-- Ends a session with its outcome. -/
  close : (id outcome : Text) → ρ → Option Failure × ρ

/-- A session that is being recorded. -/
structure Recording (ρ : Type) where
  /-- Whether the start of the session was recorded. -/
  began : Bool := false
  keeper : ρ

/-- A session that is being recorded, with its log. -/
structure Tape (ρ : Type) extends Recording ρ where
  log : List Log.Entry := []

/-- A session is recorded while it is played. -/
@[reducible]
def Recorder.crew {ρ : Type} (recorder : Recorder ρ) : Crew (Tape ρ) where
  look := Loader.lookup
  start id entry t :=
    let (failure, keeper) := recorder.start id entry t.keeper
    (failure, { t with keeper })
  confirm t := { t with began := true }
  began t := t.began
  append id moment address detail t :=
    let (failure, keeper) := recorder.append id moment.text address detail t.keeper
    (failure, { t with keeper })
  close id outcome t :=
    let (failure, keeper) := recorder.close id outcome.text t.keeper
    (failure, { t with keeper })
  log entry t := { t with log := t.log ++ [entry] }

/-- A session is played that nobody records. -/
@[reducible]
def unrecorded {ρ : Type} : Crew (Tape ρ) where
  look := Loader.lookup
  start _ _ t := (none, t)
  confirm t := t
  began _ := false
  append _ _ _ _ t := (none, t)
  close _ _ t := (none, t)
  log entry t := { t with log := t.log ++ [entry] }

namespace Recording

variable {ρ : Type}

/-- The warning that a call of the recorder failed. -/
def warning (id : Text) (message : Text) (fields : List (Text × Log.Value)) :
    Option Failure → List Log.Entry
  | none => []
  | some failure =>
    let cause : Text × Log.Value := ("error", .text failure.text)
    [⟨.warn, message, ("session", .text id) :: (fields ++ [cause])⟩]

/-- Records an event of a session. What it adds to the log is returned. -/
def record (recorder : Recorder ρ) (id : Text) (r : Recording ρ) :
    Event → List Log.Entry × Recording ρ
  | .began entry =>
    let (failure, keeper) := recorder.start id entry r.keeper
    (warning id "transcript begin failed" [] failure, ⟨r.began || failure.isNone, keeper⟩)
  | .happened moment address detail =>
    if r.began then
      let (failure, keeper) := recorder.append id moment.text address detail r.keeper
      (warning id "transcript append failed" [("kind", .text moment.text)] failure,
        { r with keeper })
    else ([], r)
  | .closed outcome =>
    if r.began then
      let (failure, keeper) := recorder.close id outcome.text r.keeper
      (warning id "transcript end failed" [] failure, { r with keeper })
    else ([], r)
  | .logged entry => ([entry], r)

/-- Records events in turn. -/
def recordAll (recorder : Recorder ρ) (id : Text) (r : Recording ρ) :
    List Event → List Log.Entry × Recording ρ
  | [] => ([], r)
  | e :: rest =>
    let (log, r) := r.record recorder id e
    let (more, r) := r.recordAll recorder id rest
    (log ++ more, r)

end Recording

/-- The log of a session that nobody records. -/
def unrecordedLog (events : List Event) : List Log.Entry :=
  events.filterMap fun
    | .logged entry => some entry
    | _ => none

end Gamebook.Transcript
