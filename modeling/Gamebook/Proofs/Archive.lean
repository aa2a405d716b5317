import Gamebook.Archive
import Gamebook.Proofs.Disk
import Gamebook.Proofs.Transcript.Tables
import Mathlib.Data.List.Dedup

/-! # Archives answer alike

Whoever uses an archive cannot tell whether it keeps its transcripts in memory or in a database.
-/

namespace Gamebook.Archive

open Transcript

/-! ## Requests -/

/-- What an archive is asked to do. -/
inductive Request where
  | start (id entry : Text)
  | append (id kind address detail : Text)
  | finish (id outcome : Text)
  | session (id : Text)
  | headers (limit : Int)
  | entries (id : Text) (limit : Int)
  | setMetadata (key value : Text)
  | getMetadata (key : Text)
  /-- To close the archive and open its path again. -/
  | reopen
  deriving DecidableEq, Repr

/-- What comes back from an archive. -/
inductive Reply where
  | done
  | header (found : Option Header)
  | headers (found : List Header)
  | entries (found : List Transcript.Entry)
  | value (found : Text)
  deriving DecidableEq, Repr

/-- Whether a request can be made of every archive that was opened by a path: the version belongs to
    the tables alone, and only a database on the disk can be opened again. -/
def Request.Fits (path : Text) : Request → Prop
  | .setMetadata key _ | .getMetadata key => key ≠ Tables.versionKey
  | .reopen => ¬(path.isEmpty ∨ path = inMemory)
  | _ => True

instance (path : Text) : (r : Request) → Decidable (r.Fits path)
  | .setMetadata key _ | .getMetadata key => inferInstanceAs (Decidable (key ≠ Tables.versionKey))
  | .reopen => inferInstanceAs (Decidable ¬(path.isEmpty ∨ path = inMemory))
  | .start .. | .append .. | .finish .. | .session _ | .headers _ | .entries .. => .isTrue trivial

/-- The session that a request starts. -/
def Request.starts : Request → Option Text
  | .start id _ => some id
  | _ => none

/-- Closes an archive and opens its path again. Memory has no path and stays open. -/
def reopen (path : Text) (k : Kept) : Option Failure × Kept :=
  match k.1.shelf with
  | .memory _ => (none, k.1.close, k.2)
  | _ =>
    match openDatabase path k.2 with
    | .ok k => (none, k)
    | .error failure => (some failure, k.1.close, k.2)

/-- The reply to a request for a change. -/
def settled (r : Option Failure × Kept) : Except Failure Reply × Kept :=
  match r with
  | (none, k) => (.ok .done, k)
  | (some failure, k) => (.error failure, k)

/-- What an archive answers, and what becomes of it. -/
def answer (path : Text) (k : Kept) : Request → Except Failure Reply × Kept
  | .start id entry => settled (start id entry k)
  | .append id kind address detail => settled (append id kind address detail k)
  | .finish id outcome => settled (finish id outcome k)
  | .session id => ((session? id k).map .header, k)
  | .headers limit => ((headers limit k).map .headers, k)
  | .entries id limit => ((entries id limit k).map .entries, k)
  | .setMetadata key value => settled (setMetadata key value k)
  | .getMetadata key => ((getMetadata key k).map .value, k)
  | .reopen => settled (reopen path k)

/-- What an archive answers to requests in turn. -/
def answerAll (path : Text) (k : Kept) : List Request → List (Except Failure Reply) × Kept
  | [] => ([], k)
  | r :: rest =>
    let (reply, k) := answer path k r
    let (replies, k) := answerAll path k rest
    (reply :: replies, k)

/-- The tables of an archive. -/
def tables (k : Kept) : Tables :=
  match k.1.shelf with
  | .memory _ => {}
  | .loose tables => tables
  | .filed place => tablesAt place k.2

/-! ## Open archives -/

/-- Where an open database is, apart from what it holds. -/
inductive Cabinet where
  | loose (disk : Disk)
  | filed (place : Text) (disk : Disk)

/-- The open database that holds tables. -/
def Cabinet.keep (c : Cabinet) (t : Tables) : Kept :=
  match c with
  | .loose d => ({ shelf := .loose t }, d)
  | .filed place d => ({ shelf := .filed place }, d.put place (.database t))

/-- The archive that keeps transcripts in memory. -/
def remembered (m : Memory) (d : Disk) : Kept :=
  ({ shelf := .memory m }, d)

/-- That a path opens a database again, whatever was written into it. -/
def Cabinet.Reopens (c : Cabinet) (path : Text) : Prop :=
  ¬(path.isEmpty ∨ path = inMemory) →
    ∀ t : Tables, t.reopened = .ok t → openDatabase path (c.keep t).2 = .ok (c.keep t)

section Open

variable (c : Cabinet) (t : Tables) (m : Memory) (d : Disk)
  (inMem : Memory → Option Failure × Memory) (inTab : Tables → Option Failure × Tables)

@[simp]
theorem tables_keep : tables (c.keep t) = t := by
  cases c with
  | loose d => rfl
  | filed place d => simp [Cabinet.keep, tables, tablesAt]

theorem change_keep :
    change inMem inTab (c.keep t) = ((inTab t).1, c.keep (inTab t).2) := by
  cases c with
  | loose d => rfl
  | filed place d => simp [Cabinet.keep, change, tablesAt]

theorem change_remembered :
    change inMem inTab (remembered m d) = ((inMem m).1, remembered (inMem m).2 d) :=
  rfl

theorem ask_keep {α : Type} (ofMem : Memory → α) (ofTab : Tables → α) :
    ask ofMem ofTab (c.keep t) = .ok (ofTab t) := by
  cases c with
  | loose d => rfl
  | filed place d => simp [Cabinet.keep, ask, tablesAt]

theorem ask_remembered {α : Type} (ofMem : Memory → α) (ofTab : Tables → α) :
    ask ofMem ofTab (remembered m d) = .ok (ofMem m) :=
  rfl

theorem closed_keep : (c.keep t).1.closed = false := by
  cases c <;> rfl

end Open

/-- That an open archive keeps the transcripts of memory. -/
inductive Keeps (m : Memory) : Kept → Prop
  | memory (d : Disk) : Keeps m (remembered m d)
  | database (c : Cabinet) {t : Tables} (holds : Holds t m) : Keeps m (c.keep t)

/-- What an archive keeps of a session. -/
def transcript? (id : Text) (k : Kept) :
    Except Failure (Option (Header × List Transcript.Entry)) := do
  let header ← session? id k
  let entries ← entries id 0 k
  return header.map (·, entries)

namespace Keeps

variable {m : Memory} {k : Kept} (keeps : Keeps m k)
include keeps

theorem opened : k.1.closed = false := by
  cases keeps with
  | memory d => rfl
  | database c holds => exact closed_keep ..

theorem ask {α : Type} {ofMem : Memory → α} {ofTab : Tables → α}
    (same : ∀ t, Holds t m → ofTab t = ofMem m) : Archive.ask ofMem ofTab k = .ok (ofMem m) := by
  cases keeps with
  | memory d => rfl
  | database c holds => rw [ask_keep, same _ holds]

theorem transcript? (id : Text) : Archive.transcript? id k = .ok (m.kept? id) := by
  have header : session? id k = .ok (m.session? id) := keeps.ask fun t holds => holds.session?_eq id
  have entries : Archive.entries id 0 k = .ok (m.entries id 0) :=
    keeps.ask fun t holds => holds.entries_eq id 0
  rw [Archive.transcript?, header, entries, Memory.session?_eq_kept?, Memory.entries_eq_kept?]
  cases m.kept? id with
  | none => rfl
  | some kept => rfl

/-- A change of an archive is a change of memory, and leaves the archive as it is if it fails. -/
theorem change {inMem : Memory → Option Failure × Memory}
    {inTab : Tables → Option Failure × Tables}
    (alike : ∀ t, Holds t m → Alike t m (inTab t) (inMem m))
    (unchanged : (inMem m).1.isSome → (inMem m).2 = m) :
    (change inMem inTab k).1.isSome = (inMem m).1.isSome ∧
      Keeps (inMem m).2 (change inMem inTab k).2 ∧
      ((inMem m).1.isSome → (change inMem inTab k).2 = k) := by
  cases keeps with
  | memory d =>
    rw [change_remembered]
    exact ⟨rfl, .memory d, fun failed => by rw [unchanged failed]⟩
  | @database c t holds =>
    rw [change_keep]
    have alike := alike t holds
    exact ⟨alike.failed, .database c alike.holds, fun failed => by rw [(alike.unchanged failed).1]⟩

theorem start (id entry : Text) :
    (start id entry k).1.isSome = (m.start id entry).1.isSome ∧
      Keeps (m.start id entry).2 (start id entry k).2 ∧
      ((m.start id entry).1.isSome → (start id entry k).2 = k) := by
  rw [Archive.start, if_neg (by simp [keeps.opened])]
  refine keeps.change (fun t holds => holds.start id entry) ?_
  intro failed
  exact Memory.start_of_known (by simpa [Memory.fst_start] using failed)

theorem append (id kind address detail : Text) :
    Keeps (m.append id kind address detail).2 (append id kind address detail k).2 := by
  refine (keeps.change (fun t holds => holds.append id kind address detail) ?_).2.1
  intro failed
  exact Memory.append_of_unknown (by simpa [Memory.fst_append] using failed)

theorem finish (id outcome : Text) : Keeps (m.close id outcome).2 (finish id outcome k).2 := by
  refine (keeps.change (fun t holds => holds.close id outcome) ?_).2.1
  intro failed
  exact Memory.close_of_unknown (by simpa [Memory.fst_close] using failed)

/-- Recording in an archive is recording in memory. -/
theorem record (began : Bool) (id : Text) (e : Event) :
    ((⟨began, k⟩ : Recording Kept).record recorder id e).2.began =
        ((⟨began, m⟩ : Recording Memory).record Memory.recorder id e).2.began ∧
      Keeps ((⟨began, m⟩ : Recording Memory).record Memory.recorder id e).2.keeper
        ((⟨began, k⟩ : Recording Kept).record recorder id e).2.keeper := by
  cases e with
  | began entry =>
    obtain ⟨failed, keeps, -⟩ := keeps.start id entry
    refine ⟨?_, keeps⟩
    change (began || (Archive.start id entry k).1.isNone) = (began || (m.start id entry).1.isNone)
    rw [← Option.not_isSome, ← Option.not_isSome, failed]
  | happened moment address detail =>
    cases began with
    | false => exact ⟨rfl, keeps⟩
    | true => exact ⟨rfl, keeps.append id moment.text address detail⟩
  | closed outcome =>
    cases began with
    | false => exact ⟨rfl, keeps⟩
    | true => exact ⟨rfl, keeps.finish id outcome.text⟩
  | logged entry => exact ⟨rfl, keeps⟩

end Keeps

/-- Tables that were put where a database was opened are found by the same path. -/
theorem openDatabase_put {path place : Text} {d : Disk} {node : Option Node} {t : Tables}
    (rooted : d.Rooted) (onDisk : ¬(path.isEmpty ∨ path = inMemory))
    (placed : d.placeFor path = .ok (place, node)) (vacant : node ≠ some .folder)
    (current : t.reopened = .ok t) :
    openDatabase path (d.put place (.database t)) =
      .ok ({ shelf := .filed place }, d.put place (.database t)) := by
  rw [openDatabase, if_neg onDisk, Disk.placeFor_put rooted placed vacant]
  simp [current, Except.map]

theorem openDatabase_cases {path : Text} {d : Disk} {k : Kept} (rooted : d.Rooted)
    (opened : openDatabase path d = .ok k) :
    ∃ c : Cabinet, k = c.keep (tables k) ∧ c.Reopens path := by
  unfold openDatabase at opened
  split at opened
  · next apart =>
    cases opened
    exact ⟨.loose d, rfl, fun onDisk => absurd apart onDisk⟩
  · split at opened
    · cases opened
    next place node placed =>
    have filed : ∀ t, node ≠ some .folder → k = (Cabinet.filed place d).keep t →
        ∃ c : Cabinet, k = c.keep (tables k) ∧ c.Reopens path := by
      rintro t vacant rfl
      refine ⟨.filed place d, by rw [tables_keep], fun onDisk t => ?_⟩
      exact openDatabase_put rooted onDisk placed vacant
    split at opened
    · cases opened
    · next t =>
      cases read : t.reopened with
      | error failure =>
        rw [read] at opened
        cases opened
      | ok t =>
        rw [read] at opened
        cases opened
        exact filed t nofun rfl
    · cases opened
    · next vacant _ _ =>
      cases opened
      exact filed .empty vacant rfl

/-! ## Side by side -/

/-- That a database and memory keep the same transcripts, of sessions that were started in this
    order, the last one first. -/
inductive Twins (c : Cabinet) (d : Disk) (started : List Text) : Kept → Kept → Prop
  | intro {t : Tables} {m : Memory} (holds : Holds t m)
      (order : m.order = started.dedup.reverse) :
      Twins c d started (c.keep t) (remembered m d)

/-- That two archives answered alike, and did nothing if they failed. -/
structure Agree (c : Cabinet) (d : Disk) (started : List Text) (k l : Kept)
    (x y : Except Failure Reply × Kept) : Prop where
  twins : Twins c d started x.2 y.2
  reply : x.1.toOption = y.1.toOption
  failed : x.1.toOption = none → x.2 = k ∧ y.2 = l

section Steps

variable {c : Cabinet} {d : Disk} {started : List Text} {t : Tables} {m : Memory}

theorem settled_snd (failure : Option Failure) (k : Kept) : (settled (failure, k)).2 = k := by
  cases failure <;> rfl

theorem settled_reply (failure : Option Failure) (k : Kept) :
    (settled (failure, k)).1.toOption = if failure.isSome then none else some .done := by
  cases failure <;> rfl

theorem agree_change {inMem : Memory → Option Failure × Memory}
    {inTab : Tables → Option Failure × Tables} (alike : Alike t m (inTab t) (inMem m))
    (order : (inMem m).2.order = started.dedup.reverse) :
    Agree c d started (c.keep t) (remembered m d) (settled (change inMem inTab (c.keep t)))
      (settled (change inMem inTab (remembered m d))) := by
  rw [change_keep, change_remembered]
  constructor
  · rw [settled_snd, settled_snd]
    exact .intro alike.holds order
  · rw [settled_reply, settled_reply, alike.failed]
  · rw [settled_reply, settled_snd, settled_snd, alike.failed]
    intro failed
    obtain ⟨same, same'⟩ := alike.unchanged (by simpa [Option.isSome_iff_ne_none] using failed)
    rw [same, same']
    exact ⟨rfl, rfl⟩

theorem agree_ask {α : Type} {ofMem : Memory → α} {ofTab : Tables → α} (reply : α → Reply)
    (holds : Holds t m) (order : m.order = started.dedup.reverse)
    (same : ofTab t = ofMem m) :
    Agree c d started (c.keep t) (remembered m d)
      ((ask ofMem ofTab (c.keep t)).map reply, c.keep t)
      ((ask ofMem ofTab (remembered m d)).map reply, remembered m d) := by
  rw [ask_keep, ask_remembered, same]
  exact ⟨.intro holds order, rfl, nofun⟩

theorem order_start {id entry : Text} (order : m.order = started.dedup.reverse) :
    (m.start id entry).2.order = (id :: started).dedup.reverse := by
  have mem : id ∈ started ↔ m.knows id = true := by
    rw [← Memory.mem_order_iff_knows, order, List.mem_reverse, List.mem_dedup]
  rw [Memory.order_start]
  split
  · next known => rw [List.dedup_cons_of_mem (mem.mpr known), order]
  · next unknown =>
    rw [List.dedup_cons_of_notMem (mt mem.mp unknown), List.reverse_cons, ← order]

variable {path : Text} {k l : Kept}

theorem reopen_keep (shelved : openDatabase path (c.keep t).2 = .ok (c.keep t)) :
    reopen path (c.keep t) = (none, c.keep t) := by
  unfold reopen
  rw [shelved]
  cases c <;> rfl

theorem Twins.answer_reopen (twins : Twins c d started k l) (reopens : c.Reopens path)
    (onDisk : ¬(path.isEmpty ∨ path = inMemory)) : answer path k .reopen = (.ok .done, k) := by
  obtain @⟨t, m, holds, -⟩ := twins
  change settled (reopen path (c.keep t)) = _
  rw [reopen_keep (reopens onDisk t holds.reopened_eq)]
  rfl

/-- One request is answered alike. -/
theorem Twins.answer (twins : Twins c d started k l) (reopens : c.Reopens path) {r : Request}
    (fits : r.Fits path) :
    Agree c d (r.starts.toList ++ started) k l (answer path k r) (answer path l r) := by
  obtain @⟨t, m, holds, order⟩ := twins
  cases r with
  | start id entry =>
    have opened : start id entry (c.keep t) =
        change (Memory.start id entry) (Tables.start id entry) (c.keep t) :=
      if_neg (by simp [closed_keep])
    change Agree _ _ _ _ _ (settled (start id entry (c.keep t))) _
    rw [opened]
    exact agree_change (holds.start id entry) (order_start order)
  | append id kind address detail =>
    exact agree_change (holds.append id kind address detail) (Memory.order_append.trans order)
  | finish id outcome => exact agree_change (holds.close id outcome) (Memory.order_close.trans order)
  | setMetadata key value =>
    exact agree_change ⟨rfl, holds.setMetadata fits value, nofun⟩ order
  | session id => exact agree_ask .header holds order (holds.session?_eq id)
  | headers limit => exact agree_ask .headers holds order (holds.headers_eq limit)
  | entries id limit => exact agree_ask .entries holds order (holds.entries_eq id limit)
  | getMetadata key => exact agree_ask .value holds order (holds.metadata key fits)
  | reopen =>
    rw [(Twins.intro (d := d) holds order).answer_reopen reopens fits]
    exact ⟨.intro holds order, rfl, nofun⟩

theorem Twins.answerAll (twins : Twins c d started k l) (reopens : c.Reopens path)
    {requests : List Request} (fits : ∀ r ∈ requests, r.Fits path) :
    (answerAll path k requests).1.map Except.toOption =
        (answerAll path l requests).1.map Except.toOption ∧
      Twins c d ((requests.filterMap Request.starts).reverse ++ started)
        (answerAll path k requests).2 (answerAll path l requests).2 := by
  induction requests generalizing k l started with
  | nil => exact ⟨rfl, twins⟩
  | cons r requests ih =>
    obtain ⟨first, rest⟩ := List.forall_mem_cons.mp fits
    have agree := twins.answer reopens first
    obtain ⟨replies, twins⟩ := ih agree.twins rest
    constructor
    · exact congrArg₂ List.cons agree.reply replies
    · cases starts : r.starts <;> simpa [Archive.answerAll, List.filterMap_cons, starts] using twins

/-- Sessions are listed newest first. -/
theorem Twins.headers (twins : Twins c d started k l) :
    (headers 0 k).map (List.map Header.id) = .ok started.dedup := by
  obtain @⟨t, m, holds, order⟩ := twins
  rw [Archive.headers, ask_keep, holds.headers_eq]
  rw [Memory.headers_eq, if_neg (Int.lt_irrefl 0)]
  change Except.ok (m.all.reverse.map Header.id) = _
  rw [List.map_reverse, Memory.map_id_all, order, List.reverse_reverse]

/-- The entries of every session are numbered from one. -/
theorem Twins.entries (twins : Twins c d started k l) (id : Text) :
    ∃ found, entries id 0 k = .ok found ∧
      found.map Transcript.Entry.seq = List.range' 1 found.length := by
  obtain @⟨t, m, holds, -⟩ := twins
  refine ⟨t.entriesOf id 0, ask_keep .., ?_⟩
  rw [holds.entries_eq, Memory.entries_eq, if_neg (Int.lt_irrefl 0)]
  exact holds.numbered id

end Steps

/-- A database and memory give the same answers to the same requests, except for the wording of
    failures. A request that fails changes nothing in either, and neither does closing a database
    and opening it again. -/
theorem archives_answer_alike (path : Text) (d : Disk) (k : Kept) (rooted : d.Rooted)
    (opened : openDatabase path d = .ok k) (fresh : tables k = .empty) (requests : List Request)
    (fits : ∀ r ∈ requests, r.Fits path) :
    (answerAll path k requests).1.map Except.toOption =
        (answerAll path (ofMemory, d) requests).1.map Except.toOption ∧
      (∀ before r after, requests = before ++ r :: after →
        let k' := (answerAll path k before).2
        let l' := (answerAll path (ofMemory, d) before).2
        ((answer path k' r).1.toOption = none →
            (answer path k' r).2 = k' ∧ (answer path l' r).2 = l') ∧
          (r = .reopen → answer path k' r = (.ok .done, k'))) ∧
      (headers 0 (answerAll path k requests).2).map (List.map Header.id) =
        .ok (requests.filterMap Request.starts).reverse.dedup ∧
      ∀ id, ∃ found, entries id 0 (answerAll path k requests).2 = .ok found ∧
        found.map Transcript.Entry.seq = List.range' 1 found.length := by
  obtain ⟨c, kept, reopens⟩ := openDatabase_cases rooted opened
  rw [fresh] at kept
  have twins : Twins c d [] k (ofMemory, d) := kept ▸ .intro holds_empty rfl
  obtain ⟨replies, after⟩ := twins.answerAll reopens fits
  refine ⟨replies, ?_, ?_, ?_⟩
  · rintro before r after rfl
    obtain ⟨earlier, later⟩ := List.forall_mem_append.mp fits
    have now := later r List.mem_cons_self
    have twins := (twins.answerAll reopens earlier).2
    refine ⟨(twins.answer reopens now).failed, ?_⟩
    rintro rfl
    exact twins.answer_reopen reopens now
  · simpa using after.headers
  · exact after.entries

/-- A session that is taken twice, one that nobody started, and a file that is opened again. -/
theorem archives_answer_alike_reopened :
    let d : Disk := { directory := "/srv", nodes := [("/srv", .folder)] }
    let requests : List Request :=
      [.start "a" "m:s", .append "a" "enter" "m:s" "", .start "a" "m:t", .reopen, .start "b" "m:s",
        .append "a" "choose" "m:s" "go", .append "c" "enter" "m:s" "", .reopen, .finish "a" "end",
        .setMetadata "k" "v", .getMetadata "k", .headers 1, .headers 0, .entries "a" 5,
        .entries "c" (-1), .session "c"]
    ∃ k, openDatabase "logs.db" d = .ok k ∧
      (answerAll "logs.db" k requests).1.map Except.toOption =
        (answerAll "logs.db" (ofMemory, d) requests).1.map Except.toOption := by
  intro d requests
  have rooted : d.Rooted := .of_nodes (by decide +kernel) (by decide +kernel) (by decide +kernel)
  refine ⟨({ shelf := .filed "/srv/logs.db" }, d.put "/srv/logs.db" (.database .empty)), ?_, ?_⟩
  · decide +kernel
  · exact (archives_answer_alike "logs.db" d _ rooted (by decide +kernel) (by decide +kernel)
      requests (by decide +kernel)).1

end Gamebook.Archive
