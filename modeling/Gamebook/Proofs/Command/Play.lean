import Gamebook.Command
import Gamebook.Proofs.Theater

/-! # How the command ends

The command exits with success exactly if the host ended the session. That is what the transcript
says, too: the code of the ending, the problems in its chain and the outcome that was recorded are
three ways to ask the same question.
-/

namespace Gamebook

open Transcript

/-- What is added to files leaves databases alone. -/
theorem Archive.tablesAt_append (d : Disk) (place other text : Text) :
    tablesAt place (d.append other text) = tablesAt place d := by
  unfold Disk.append
  split
  · next contents here =>
    by_cases same : place = other
    · subst same
      simp [tablesAt, here]
    · simp [tablesAt, Disk.node?_put_ne same]
  · rfl

theorem Console.tablesAt_log (c : Console) (w : Log.Writer) (time : Text)
    (entries : List Log.Entry) (place : Text) :
    Archive.tablesAt place (c.log w time entries).disk = Archive.tablesAt place c.disk := by
  unfold log
  dsimp only
  split
  · rfl
  · rfl
  · exact Archive.tablesAt_append ..

/-- An archive on the disk tells the same on every disk that has its tables. -/
theorem Archive.transcript?_congr {a : Archive} {place : Text} (filed : a.shelf = .filed place)
    {d e : Disk} (same : tablesAt place e = tablesAt place d) (id : Text) :
    transcript? id (a, e) = transcript? id (a, d) := by
  simp only [transcript?, session?, entries, ask, filed, same]

theorem Archive.openDatabase_filed {path : Text} {d : Disk} {k : Kept}
    (onDisk : ¬(path.isEmpty ∨ path = inMemory)) (opened : openDatabase path d = .ok k) :
    ∃ place, k.1.shelf = .filed place := by
  unfold openDatabase at opened
  rw [if_neg onDisk] at opened
  split at opened
  · cases opened
  · next place node placed =>
    refine ⟨place, ?_⟩
    split at opened
    · cases opened
    · next t =>
      cases read : t.reopened with
      | error failure =>
        rw [read] at opened
        cases opened
      | ok t =>
        rw [read] at opened
        cases opened
        rfl
    · cases opened
    · cases opened
      rfl

namespace Command

variable {i : Invocation} {p : Plan} {c : Console}

theorem ending_log (c : Console) (w : Log.Writer) (time : Text) (entries : List Log.Entry) :
    (c.log w time entries).ending = c.ending := by
  unfold Console.log
  dsimp only
  split
  · rfl
  · rfl
  · rfl

/-- The status tells whether the host ended the session, and the databases on the disk are those of
    the theater. -/
theorem conclude_ended {f : Failure} (played : Option Failure × List Log.Entry × House)
    (ended : played.1 = some f) (w : Log.Writer) (c : Console) :
    (conclude i w c played).1 = (if f.isHostTermination then 0 else 1) ∧
      (conclude i w c played).2.ending = f ∧
      ∀ place, Archive.tablesAt place (conclude i w c played).2.disk =
        Archive.tablesAt place played.2.2.disk := by
  obtain ⟨answer, entries, house⟩ := played
  obtain rfl : answer = some f := ended
  unfold conclude
  dsimp only [Option.getD_some]
  split
  · split
    · exact ⟨rfl, ending_log .., fun place => Console.tablesAt_log ..⟩
    · exact ⟨rfl, ending_log .., fun place => Console.tablesAt_log ..⟩
  · exact ⟨rfl, ending_log .., fun place => Console.tablesAt_log ..⟩

theorem house_plain (input : i.input.ending.Plain) (output : i.output.Plain)
    (stop : ∀ cause, i.halted = some cause → cause.Plain) : (house i p c).Plain := by
  have losses : ∀ sink, Outlet.sink i.output = .sink sink → sink.Plain := by
    intro sink same
    cases same
    exact output
  unfold house Theater.keeping
  split
  · exact ⟨stop, losses, input⟩
  · split
    · exact ⟨stop, losses, input⟩
    · exact ⟨stop, losses, input⟩

/-- A session can be played if no transcript is asked for or the database can be opened. -/
theorem house_able (reaches : p.transcript.isEmpty ∨
    ∃ k, Archive.openDatabase p.transcript c.disk = .ok k) :
    (house i p c).theater.failure = none := by
  unfold house Theater.keeping
  dsimp only
  by_cases none : p.transcript.isEmpty
  · rw [if_pos none]
  · obtain ⟨k, opened⟩ := reaches.resolve_left none
    rw [if_neg none, opened]

theorem house_files {k : Archive.Kept} {m : Memory}
    (onDisk : ¬(p.transcript.isEmpty ∨ p.transcript = Archive.inMemory))
    (opened : Archive.openDatabase p.transcript c.disk = .ok k) (keeps : Archive.Keeps m k) :
    (house i p c).Files k.1 m := by
  have filed := Archive.openDatabase_filed onDisk opened
  unfold house Theater.keeping
  dsimp only
  rw [if_neg (not_or.mp onDisk).1, opened]
  exact ⟨rfl, filed, keeps⟩

theorem able_opened {h : House} (able : h.theater.failure = none) :
    h.opened.2.theater.failure = none := by
  unfold House.opened House.noteMetadata
  split
  · exact able
  · exact able

end Command

/-- A session that is over has ended with one of nine codes, as long as the host tells of its own
    failures in plain words. Whether the host ended it can be asked of the code, of the problems
    along the chain and of the outcome that a recorder was told. So the command exits with success
    exactly if the transcript says that the session was cancelled, and fails otherwise. -/
theorem endings_are_classified_alike :
    (∀ {σ ρ : Type} {id : Text} {maxRetries : Int} {items : List Text} {l : Loader} {w : σ}
      {p : Play σ}, l.ReadFrom (fun _ _ => True) →
      Relation.ReflTransGen Play.PlainStep
        ⟨{ id, maxRetries, inventory := .ofItems items }, l, w, []⟩ p →
      p.session.stage = .ended →
      ∃ f, p.session.ending = some f ∧ f.code ∈ Code.endings ∧
        (f.isHostTermination = true ↔ f.code = .cancelled) ∧
        ∀ (recorder : Recorder ρ) (keeper : ρ) (entry : Text),
          .start id entry true ∈ recorder.calls id keeper p.events →
          ∃ outcome, (recorder.calls id keeper p.events).filterMap Call.outcome? = [outcome] ∧
            (outcome = "CANCELLED" ↔ f.code = .cancelled)) ∧
    ∀ (i : Invocation) (w : Log.Writer) (plan : Plan) (c : Console),
      i.input.ending.Plain → i.output.Plain → (∀ cause, i.halted = some cause → cause.Plain) →
      (plan.transcript.isEmpty ∨ ∃ k, Archive.openDatabase plan.transcript c.disk = .ok k) →
      let played := Command.playSession i w plan c
      played.2.ending.code ∈ Code.endings ∧
        played.1 = (if played.2.ending.code = .cancelled then 0 else 1) ∧
        ∀ k m, ¬(plan.transcript.isEmpty ∨ plan.transcript = Archive.inMemory) →
          Archive.openDatabase plan.transcript c.disk = .ok k → Archive.Keeps m k →
          m.kept? i.id = none →
          ∃ header entries,
            Archive.transcript? i.id (k.1, played.2.disk) = .ok (some (header, entries)) ∧
              header.ended = true ∧
              played.1 = if header.outcome = "CANCELLED" then 0 else 1 := by
  constructor
  · intro σ ρ id maxRetries items l w p kept plain ended
    have leads : Play.Leads ⟨{ id, maxRetries, inventory := .ofItems items }, l, w, []⟩ p :=
      Relation.ReflTransGen.mono (fun _ _ => Play.PlainStep.step) _ _ plain
    obtain ⟨f, ending, -⟩ := leads.story_ended ended
    have classified := ((Play.classified_fresh id maxRetries (.ofItems items) w kept).leads
      plain).ending f ending
    refine ⟨f, ending, classified.code, classified.host, fun recorder keeper entry began => ?_⟩
    exact ⟨f.code.text, leads.outcomes ended ending recorder keeper began,
      Code.text_eq_cancelled_iff classified.code⟩
  · intro i w plan c input output stop reaches
    obtain ⟨f, answer, classified, recorded⟩ := House.play_classified
      (Command.able_opened (Command.house_able (i := i) reaches))
      (House.plain_noteMetadata (Command.house_plain input output stop) _ _) i.id
      (plan.entry.address plan.file)
    let house := (Command.house i plan c).opened
    let session := house.2.play i.id (plan.entry.address plan.file)
    have concluded : Command.playSession i w plan c = Command.conclude i w c
        (session.1, house.1 ++ Command.startingNote i plan :: session.2.1, session.2.2) := rfl
    obtain ⟨status, ending, tables⟩ := Command.conclude_ended (i := i)
      (session.1, house.1 ++ Command.startingNote i plan :: session.2.1, session.2.2) answer w c
    have agree : (if f.isHostTermination then 0 else 1) =
        if f.code = .cancelled then 0 else 1 := by
      simp only [classified.host]
    dsimp only
    rw [concluded, ending, status]
    refine ⟨classified.code, agree, fun k m onDisk opened keeps free => ?_⟩
    have files := (Command.house_files (i := i) onDisk opened keeps).noteMetadata House.versionKey
      House.version (by decide)
    obtain ⟨m', entries, after, transcript⟩ := recorded files free
    obtain ⟨place, filed⟩ := after.filed
    refine ⟨⟨i.id, (plan.entry.address plan.file).text, true, f.code.text⟩, entries, ?_, rfl, ?_⟩
    · rw [Archive.transcript?_congr filed (tables place), after.keeps.transcript?, transcript]
    · rw [agree]
      simp only [Code.text_eq_cancelled_iff classified.code]

/-- A player whose answers cannot be read ends a session otherwise than a host that calls it off, and
    the recorder is told so. The command that is called off before a scene is entered succeeds, as its
    transcript says; one that loses its output at the first line fails. -/
theorem endings_are_classified_alike_unread :
    let text : Text := "@module m: @scene s: select \x7b \"on\" => s \x7d; @end-module m"
    let host : Host Unit :=
      { halted := fun w => (none, w)
        read := fun path w => (if path = "/a" then .ok text else .error [.missing "gone"], w)
        tell := fun _ w => (none, w)
        offer := fun _ w => (none, w)
        complain := fun _ w => (none, w) }
    let player : Player Unit := ⟨[], fun _ w => ([.said "broken pipe"], w)⟩
    let start : Play Unit := ⟨{ id := "v", inventory := .ofItems [] }, { directory := "/" }, (), []⟩
    let final := (start.perform host (.run (some player) ⟨"a", "m", "s"⟩)).2
    let console : Console := { disk := { directory := "/", nodes := [("/a", .file text)] } }
    let interrupted : Invocation :=
      { arguments := [], halted := some [.calledOff], grace := 1, time := "", id := "v" }
    let lost : Invocation :=
      { arguments := [], output := { losses := [(1, [.said "broken pipe"])] }, time := "", id := "v" }
    let stopped := Command.playSession interrupted ⟨.warn, .json, .out⟩
      ⟨"a", ⟨"m", "s"⟩, [], "/t", 0⟩ console
    let cutOff := Command.playSession lost ⟨.warn, .json, .out⟩
      ⟨"a", ⟨"m", "s"⟩, [], "/t", 0⟩ console
    (∃ (f : Failure) (outcome : Text), final.session.ending = some f ∧ f.code = .transfer ∧
      f.isHostTermination = false ∧ outcome ≠ "CANCELLED" ∧
      (Memory.recorder.calls "v" {} final.events).filterMap Call.outcome? = [outcome]) ∧
    (∃ header entries,
      Archive.transcript? "v" ({ shelf := .filed "/t" }, stopped.2.disk) =
          .ok (some (header, entries)) ∧
        stopped.1 = 0 ∧ header.outcome = "CANCELLED") ∧
    ∃ header entries,
      Archive.transcript? "v" ({ shelf := .filed "/t" }, cutOff.2.disk) =
          .ok (some (header, entries)) ∧
        cutOff.1 = 1 ∧ header.outcome ≠ "CANCELLED" := by
  intro text host player start final console interrupted lost stopped cutOff
  have hostPlain : host.Plain := by
    constructor
    · intro path w cause failed
      simp only [host] at failed
      split at failed
      · cases failed
      · cases failed
        rfl
    all_goals
      intro shown w cause failed
      cases failed
  have playerPlain : player.Plain := by
    constructor
    · intro answer member
      cases member
    · intro n w
      rfl
  have leads : Relation.ReflTransGen Play.PlainStep start final :=
    .single (.perform hostPlain start playerPlain)
  have ended : final.session.stage = .ended := by decide +kernel
  have code : final.session.ending.map Failure.code = some .transfer := by decide +kernel
  have began : .start "v" (Address.text ⟨"a", "m", "s"⟩) true ∈
      Memory.recorder.calls "v" {} final.events := by
    decide +kernel
  have opened : Archive.openDatabase "/t" console.disk =
      .ok (Archive.Cabinet.keep (.filed "/t" console.disk) .empty) := by decide +kernel
  have succeeds : stopped.1 = 0 := by decide +kernel
  have fails : cutOff.1 = 1 := by decide +kernel
  obtain ⟨sessions, commands⟩ := endings_are_classified_alike
  have told : ∀ (i : Invocation) (played : Nat × Console),
      i.id = "v" → i.input.ending.Plain → i.output.Plain →
      (∀ cause, i.halted = some cause → cause.Plain) →
      played = Command.playSession i ⟨.warn, .json, .out⟩ ⟨"a", ⟨"m", "s"⟩, [], "/t", 0⟩ console →
      ∃ header entries, Archive.transcript? "v" ({ shelf := .filed "/t" }, played.2.disk) =
          .ok (some (header, entries)) ∧
        played.1 = if header.outcome = "CANCELLED" then 0 else 1 := by
    intro i played named input output stop same
    obtain ⟨-, -, transcript⟩ := commands i ⟨.warn, .json, .out⟩ ⟨"a", ⟨"m", "s"⟩, [], "/t", 0⟩
      console input output stop (.inr ⟨_, opened⟩)
    obtain ⟨header, entries, found, -, status⟩ := transcript _ {} (by decide) opened
      (.database _ holds_empty) rfl
    rw [← same, named] at found
    rw [← same] at status
    exact ⟨header, entries, found, status⟩
  refine ⟨?_, ?_, ?_⟩
  · obtain ⟨f, ending, -, agree, recorded⟩ := sessions (Loader.readFrom_empty _ "/") leads ended
    rw [ending, Option.map_some, Option.some.injEq] at code
    obtain ⟨outcome, outcomes, same⟩ := recorded Memory.recorder {} _ began
    refine ⟨f, outcome, ending, code, by simpa [code] using agree, ?_, outcomes⟩
    intro cancelled
    rw [same, code] at cancelled
    cases cancelled
  · have stop : ∀ cause, interrupted.halted = some cause → cause.Plain := by
      intro cause called
      cases called
      rfl
    obtain ⟨header, entries, found, status⟩ := told interrupted stopped rfl rfl
      (by simp [interrupted, Sink.Plain]) stop rfl
    refine ⟨header, entries, found, succeeds, ?_⟩
    rw [succeeds] at status
    by_contra other
    rw [if_neg other] at status
    cases status
  · have output : lost.output.Plain := by
      intro loss member
      rw [List.mem_singleton.mp member]
      rfl
    obtain ⟨header, entries, found, status⟩ := told lost cutOff rfl rfl output (by simp [lost]) rfl
    refine ⟨header, entries, found, fails, ?_⟩
    intro cancelled
    rw [fails, if_pos cancelled] at status
    cases status

end Gamebook
