import Gamebook.Proofs.Session.Company
import Gamebook.Proofs.Session.Protocol

/-! # How sessions end

A failure can be asked for its outermost problem, or for any problem along the chain. The two
questions agree about a failure that holds one problem only, and about one whose outermost problem
is that the session was called off. Every ending is of one of these two sorts, provided that the
host says in its own words what went wrong: `Failure.Classified` is carried along whatever can
happen to a play.
-/

namespace Gamebook

/-- The codes that sessions end with. -/
def Code.endings : List Code :=
  [.lexical, .structural, .unresolvedFile, .unresolvedModule, .unresolvedScene, .transfer, .deadEnd,
   .cancelled, .retriesExhausted]

theorem Code.text_eq_cancelled_iff {code : Code} (ending : code ∈ endings) :
    code.text = "CANCELLED" ↔ code = .cancelled := by
  have each : ∀ code ∈ endings, code.text = "CANCELLED" ↔ code = .cancelled := by decide +kernel
  exact each code ending

theorem Loader.NotFound.mem_endings {code : Code} (notFound : NotFound code) :
    code ∈ Code.endings := by
  rcases notFound with rfl | rfl | rfl | rfl | rfl | rfl
  all_goals decide

namespace Failure

variable {f cause : Failure}

/-- That a failure holds no problem: it is all in the words of the outside world. -/
def Plain (f : Failure) : Prop :=
  f.reports = []

instance (f : Failure) : Decidable f.Plain :=
  inferInstanceAs (Decidable (f.reports = []))

def Single (f : Failure) : Prop :=
  f.reports.length = 1

/-- That a failure ends a session, and was caused by the host exactly if its code says so. -/
structure Classified (f : Failure) : Prop where
  code : f.code ∈ Code.endings
  host : f.isHostTermination = true ↔ f.code = .cancelled

theorem report?_eq_head? (f : Failure) : f.report? = f.reports.head? :=
  List.head?_filterMap.symm

theorem Single.classified (single : f.Single) (ending : f.code ∈ Code.endings) :
    f.Classified := by
  obtain ⟨r, only⟩ := List.length_eq_one_iff.mp single
  have code : f.code = r.problem.code := by
    simp [Failure.code, report?_eq_head?, only]
  refine ⟨ending, ?_⟩
  rw [isHostTermination, hasCode, only, code]
  simp

theorem single_because (p : Problem) (plain : cause.Plain) : (because p cause).Single := by
  rw [Plain, reports] at plain
  simp [Single, reports, because, Link.report?, plain]

theorem classified_because {p : Problem} (plain : cause.Plain) (ending : p.code ∈ Code.endings) :
    (because p cause).Classified :=
  (single_because p plain).classified ending

theorem classified_ofReport {r : Report} (ending : r.problem.code ∈ Code.endings) :
    (ofReport r).Classified :=
  Single.classified rfl ending

/-- Whatever caused the host to call a session off, the session was called off. -/
theorem classified_halted (cause : Failure) : (because .sessionCancelled cause).Classified := by
  have called : (because .sessionCancelled cause).isHostTermination = true := by
    simp [isHostTermination, hasCode, reports, because, Link.report?, Problem.code]
  have code : (because .sessionCancelled cause).code = .cancelled := rfl
  exact ⟨by simp [code, Code.endings], by simp [called, code]⟩

theorem reports_dropWhile (f : Failure) :
    reports (f.dropWhile fun link => link.report?.isNone) = f.reports := by
  induction f with
  | nil => rfl
  | cons link rest ih =>
    cases first : link.report? with
    | none => simpa [reports, first] using ih
    | some r => simp [reports, first]

theorem Single.placed (single : f.Single) (place : Place) : (f.placed place).Single := by
  unfold Failure.placed
  split
  · next r causes from_ =>
    split
    · have same := reports_dropWhile f
      rw [from_] at same
      rw [Single, ← same] at single
      exact single
    · exact single
  · exact single

end Failure

/-! ## Failures of loaders -/

theorem Path.canonical_plain {base path : Text} {cause : Failure}
    (failed : canonical base path = .error cause) : cause.Plain := by
  unfold canonical at failed
  split at failed
  · cases failed
    rfl
  · cases failed

theorem Diagnostic.failure?_single {ds : List Diagnostic} {f : Failure}
    (failed : failure? ds = some f) : f.Single := by
  unfold failure? at failed
  split at failed
  · cases failed
  · cases failed
    rfl
  · cases failed
    rfl

theorem Script.find_single {s : Script} {module scene : Text} {f : Failure}
    (failed : s.find module scene = .error f) : f.Single := by
  obtain ⟨r, rfl⟩ := find_eq_ofReport failed
  rfl

variable {σ : Type}

/-- That a file which cannot be read fails in plain words. -/
def ReadFile.Plain (read : ReadFile σ) : Prop :=
  ∀ path w cause, (read path w).1 = .error cause → cause.Plain

namespace Loader

variable {read : ReadFile σ} {l : Loader} {w : σ} {f : Failure}

theorem resolve_single {texts : Text → Text → Prop} {a : Address} (plain : read.Plain)
    (kept : (l.resolve read a w).loader.ReadFrom texts)
    (failed : (l.resolve read a w).result = .error f) : f.Single := by
  cases file : (l.load read a.file w).result with
  | error g =>
    obtain rfl : g = f := by simpa [resolve, file, bind, Except.bind] using failed
    rcases load_unread read l a.file w file with ⟨cause, bad, rfl⟩ | ⟨key, cause, -, unread, rfl⟩
    · exact Failure.single_because _ (Path.canonical_plain bad)
    · exact Failure.single_because _ (plain key w cause unread)
  | ok loaded =>
    obtain ⟨key, -, stored⟩ := load_lookup _ _ _ _ file
    obtain ⟨text, -, parsed⟩ := kept.of_lookup stored
    cases failure : loaded.failure with
    | some g =>
      obtain rfl : g = f := by
        simpa [resolve, file, Loaded.playable, failure, bind, Except.bind] using failed
      rw [parsed] at failure
      exact Diagnostic.failure?_single failure
    | none =>
      have missing : loaded.script.find a.module a.scene = .error f := by
        simpa [resolve, file, Loaded.playable, failure, bind, Except.bind] using failed
      exact Script.find_single missing

theorem lookupFrom_single {origin : Address} {module : Option Text} {scene : Text}
    (plays : l.Plays origin.file) (failed : l.lookupFrom origin module scene = .error f) :
    f.Single := by
  obtain ⟨loaded, here, playable⟩ := plays
  rw [lookupFrom_eq_find here playable] at failed
  exact Script.find_single failed

theorem follow_single {texts : Text → Text → Prop} {origin : Address} {target : Target}
    (plain : read.Plain) (kept : (l.follow read origin target w).loader.ReadFrom texts)
    (plays : l.Plays origin.file) (failed : (l.follow read origin target w).result = .error f) :
    f.Single := by
  cases target with
  | sameFile module scene => exact lookupFrom_single plays failed
  | otherFile path module scene => exact resolve_single plain kept failed

theorem brokenOffer?_single {origin : Address} (plays : l.Plays origin.file) {offers : List Offer}
    {b : Branch} (broken : l.brokenOffer? origin offers = some (b, f)) : f.Single := by
  obtain ⟨module, scene, missing⟩ := lookupFrom_of_brokenOffer? broken
  exact lookupFrom_single plays missing

theorem brokenOffer?_classified {origin : Address} (plays : l.Plays origin.file)
    {offers : List Offer} {b : Branch} (broken : l.brokenOffer? origin offers = some (b, f)) :
    (b.locate origin.file f).Classified := by
  refine ((brokenOffer?_single plays broken).placed _).classified ?_
  rw [Failure.code_placed]
  rcases brokenOffer?_code plays broken with code | code
  all_goals simp [code, Code.endings]

end Loader

/-! ## Hosts in plain words -/

/-- That a host tells of its own failures in plain words. Why it wants a session to stop may be
    anything. -/
structure Host.Plain (h : Host σ) : Prop where
  read : h.read.Plain
  tell : ∀ lines w cause, (h.tell lines w).1 = some cause → cause.Plain
  offer : ∀ choices w cause, (h.offer choices w).1 = some cause → cause.Plain
  complain : ∀ message w cause, (h.complain message w).1 = some cause → cause.Plain

structure Player.Plain (player : Player σ) : Prop where
  answers : ∀ answer ∈ player.answers, ∀ n w cause, (answer n w).1 = .error cause → cause.Plain
  last : ∀ n w, (player.last n w).1.Plain

def Deed.Plain : Deed σ → Prop
  | .run (some player) _ => player.Plain
  | .run none _ | .move _ | .cancel | .meanwhile _ => True

theorem Host.Plain.refuses {h : Host σ} (plain : h.Plain) {cause : Failure}
    (refused : h.Refuses cause) : cause.Plain := by
  obtain ⟨w, ⟨lines, failed⟩ | ⟨choices, failed⟩ | ⟨message, failed⟩⟩ := refused
  · exact plain.tell lines w cause failed
  · exact plain.offer choices w cause failed
  · exact plain.complain message w cause failed

/-- What can happen to a play whose hosts and players speak in plain words. Others may read more
    files in between. -/
inductive Play.PlainStep : Play σ → Play σ → Prop where
  | perform {h : Host σ} (host : h.Plain) (p : Play σ) {d : Deed σ} (deed : d.Plain) :
    PlainStep p (p.perform h d).2
  | shared (p : Play σ) {l : Loader} (more : p.loader.Extends l)
      (kept : l.ReadFrom fun _ _ => True) : PlainStep p { p with loader := l }

namespace View

variable {h : Host σ} {v : View} {r : Option Failure × View}

/-- That a session which is over ended with a failure that tells how. -/
def Classified (v : View) : Prop :=
  ∀ f, v.session.ending = some f → f.Classified

theorem classified_of_ongoing (alive : v.session.ending = none) : v.Classified := by
  intro f ended
  rw [alive] at ended
  cases ended

theorem classified_finish {f : Failure} (classified : f.Classified) :
    (v.finish f).2.Classified := by
  intro g ended
  obtain rfl : f = g := Option.some.inj ended
  exact classified

theorem classified_unshown (plain : h.Plain) {cause : Failure} (refused : h.Refuses cause) :
    (v.finish (.because .outputNotWritten cause)).2.Classified :=
  classified_finish (Failure.classified_because (plain.refuses refused) (by decide))

theorem Entering.classified {found : Found} (plain : h.Plain) (alive : v.session.ending = none)
    (here : v.loader.Plays found.address.file) (entering : v.Entering h found r) :
    r.2.Classified := by
  cases entering with
  | halted asked => exact classified_finish (Failure.classified_halted _)
  | unshown refused => exact classified_unshown plain refused
  | deadEnd nothing =>
    exact classified_finish (Failure.classified_ofReport (by simp [Problem.code, Code.endings]))
  | broken something missing => exact classified_finish (Loader.brokenOffer?_classified here missing)
  | awaiting something whole => exact classified_of_ongoing alive

theorem Starting.classified {entry : Address} {w : σ} (plain : h.Plain)
    (alive : v.session.ending = none) (kept : v.loader.ReadFrom fun _ _ => True)
    (starting : v.Starting h entry w r) : r.2.Classified := by
  have fetched : (v.loader.resolve h.read entry (h.halted w).2).loader.ReadFrom fun _ _ => True :=
    kept.load h.read entry.file _ fun _ _ _ _ => trivial
  cases starting with
  | halted asked => exact classified_finish (Failure.classified_halted _)
  | unresolved loader failed =>
    exact classified_finish ((Loader.resolve_single plain.read fetched failed).classified
      (Loader.resolve_code fetched failed).mem_endings)
  | entering loader ok rest =>
    have here := Loader.resolve_plays fetched ok
    rw [loader] at here
    exact rest.classified (v := { v.tell _ with loader := _ }) plain alive here

theorem Choosing.classified {input : Text} {w : σ} (plain : h.Plain)
    (waiting : v.session.stage = .awaitingChoice) (sound : v.Sound)
    (choosing : v.Choosing h input w r) : r.2.Classified := by
  have plays := sound.plays_position waiting
  have alive : v.session.ending = none := by
    have settled := sound.settled
    rw [Session.Settled, waiting] at settled
    exact settled.1
  have fetched (offer : Offer) :
      (v.loader.follow h.read v.session.position offer.branch.target
        (h.halted w).2).loader.ReadFrom fun _ _ => True :=
    sound.grounds.kept.follow fun _ _ _ _ => trivial
  cases choosing with
  | halted asked => exact classified_finish (Failure.classified_halted _)
  | @unresolved n offer f l picked loader failed =>
    refine classified_finish
      (((Loader.follow_single plain.read (fetched offer) plays failed).placed _).classified ?_)
    rw [Failure.code_placed]
    exact (Loader.follow_code (fetched offer) plays failed).mem_endings
  | @entering n offer found l r picked loader ok rest =>
    have here := Loader.follow_plays (fetched offer) plays ok
    rw [loader] at here
    exact rest.classified (v := { v.choice n offer with loader := l }) plain alive here
  | unshown unpicked refused => exact classified_unshown plain refused
  | exhausted unpicked many =>
    exact classified_finish (Failure.classified_ofReport (by simp [Problem.code, Code.endings]))
  | rejected unpicked few => exact classified_of_ongoing alive

end View

namespace Play

variable {h : Host σ} {p q : Play σ}

/-- That a session is in order and, if it is over, can be told how it ended. -/
structure Classified (p : Play σ) : Prop where
  sound : p.view.Sound
  ending : p.view.Classified

theorem Classified.make (before : p.Classified) (plain : h.Plain) (m : Move) :
    (p.make h m).2.Classified := by
  refine ⟨kept_sound.make h m before.sound, ?_⟩
  by_cases expected : p.session.Expects m
  · cases m with
    | start entry =>
      have settled := before.sound.settled
      rw [Session.Settled, show p.view.session.stage = .awaitingEntry from expected] at settled
      exact (start_starting h entry expected).classified plain settled.2.2
        before.sound.grounds.kept
    | choose input =>
      have waiting : p.view.session.stage = .awaitingChoice := expected
      exact (choose_choosing h input expected).classified plain waiting before.sound
  · obtain ⟨f, same, -⟩ := make_of_not_expects h expected
    rw [same]
    exact before.ending

theorem Classified.finish (before : p.Classified) (ongoing : p.session.stage ≠ .ended) {f : Failure}
    (classified : f.Classified) : (p.finish f).2.Classified := by
  refine ⟨kept_sound.finish f ongoing before.sound, ?_⟩
  have ended : (p.finish f).2.view = (p.view.finish f).2 := congrArg Prod.snd (seen_finish p f)
  rw [ended]
  exact View.classified_finish classified

theorem Classified.inWorld (before : p.Classified) (w : σ) : { p with world := w }.Classified :=
  ⟨before.sound, before.ending⟩

theorem Classified.cancel (before : p.Classified) : p.cancel.Classified := by
  unfold Play.cancel
  split
  · exact before
  · next ongoing => exact before.finish ongoing (Failure.classified_halted [])

theorem Classified.unanswered (before : p.Classified) (ongoing : p.session.stage ≠ .ended)
    {cause : Failure} (plain : cause.Plain) : (p.unanswered h cause).2.Classified := by
  unfold Play.unanswered
  split
  · exact before.finish ongoing (Failure.classified_halted cause)
  · dsimp only
    split
    · exact (before.inWorld (h.halted p.world).2).finish ongoing (Failure.classified_halted cause)
    · exact (before.inWorld (h.halted p.world).2).finish ongoing
        (Failure.classified_because plain (by decide))

theorem Classified.attend (before : p.Classified) (plain : h.Plain)
    {last : Nat → σ → Failure × σ} (lastPlain : ∀ n w, (last n w).1.Plain)
    {answers : List (Answer σ)}
    (answersPlain : ∀ answer ∈ answers, ∀ n w cause, (answer n w).1 = .error cause → cause.Plain) :
    (p.attend h last answers).2.Classified := by
  induction p, answers using attend_induct h with
  | done p answers busy =>
    rw [attend_of_ne h last answers busy]
    exact before
  | last p waiting =>
    rw [attend_nil waiting]
    have asked := before.inWorld (last p.session.offers.length p.world).2
    exact asked.unanswered (ongoing_of_waiting waiting) (lastPlain _ _)
  | failed p answer rest cause w waiting given =>
    have plainCause : cause.Plain :=
      answersPlain answer List.mem_cons_self _ _ cause (congrArg Prod.fst given)
    rw [attend_unanswered waiting given]
    exact (before.inWorld w).unanswered (ongoing_of_waiting waiting) plainCause
  | given p answer rest input w waiting given ih =>
    rw [attend_answered waiting given]
    apply ih ((before.inWorld w).make plain (.choose input))
    intro other member
    exact answersPlain other (List.mem_cons_of_mem answer member)

theorem Classified.run (before : p.Classified) (plain : h.Plain) {player : Player σ}
    (playerPlain : player.Plain) (entry : Address) :
    (p.run h (some player) entry).2.Classified := by
  have started : (p.start h entry).2.Classified := before.make plain (.start entry)
  rw [run_some]
  split
  · exact started.attend plain playerPlain.last playerPlain.answers
  · exact started

theorem Classified.step (before : p.Classified) (step : p.PlainStep q) : q.Classified := by
  cases step with
  | @perform h plain p d deed =>
    cases d with
    | move m => exact before.make plain m
    | run player entry =>
      cases player with
      | none => exact before
      | some player => exact before.run plain deed entry
    | cancel => exact before.cancel
    | meanwhile change => exact before.inWorld _
  | shared p more kept =>
    exact ⟨⟨before.sound.settled, before.sound.grounds.extended more kept⟩, before.ending⟩

/-- Whatever happens to a session in plain words, it can be told how it ended. -/
theorem Classified.leads (before : p.Classified) (leads : Relation.ReflTransGen PlainStep p q) :
    q.Classified := by
  induction leads with
  | refl => exact before
  | tail _ step ih => exact ih.step step

theorem PlainStep.step (step : p.PlainStep q) : p.Step q := by
  cases step with
  | perform host p deed => exact .perform _ p _
  | shared p more kept => exact .shared p _

theorem classified_fresh (id : Text) (maxRetries : Int) (inventory : Inventory) {l : Loader} (w : σ)
    (kept : l.ReadFrom fun _ _ => True) :
    Classified ⟨{ id, maxRetries, inventory }, l, w, []⟩ :=
  ⟨(Reachable.fresh id maxRetries inventory w kept).sound, View.classified_of_ongoing rfl⟩

end Play

/-! ## Runs come to an end -/

namespace View

variable {h : Host σ} {v : View} {r : Option Failure × View}

/-- That a session is over, which is what the answer tells of, or goes on without a word. -/
def Goes (r : Option Failure × View) : Prop :=
  (r.2.session.stage = .ended ∧ r.1 = r.2.session.ending) ∨
    (r.2.session.stage = .awaitingChoice ∧ r.1 = none)

theorem Entering.goes {found : Found} (entering : v.Entering h found r) : Goes r := by
  cases entering with
  | awaiting something whole => exact .inr ⟨rfl, rfl⟩
  | _ => exact .inl ⟨rfl, rfl⟩

theorem Starting.goes {entry : Address} {w : σ} (starting : v.Starting h entry w r) : Goes r := by
  cases starting with
  | entering loader ok rest => exact rest.goes
  | _ => exact .inl ⟨rfl, rfl⟩

theorem Choosing.stage {input : Text} {w : σ} (waiting : v.session.stage = .awaitingChoice)
    (choosing : v.Choosing h input w r) :
    r.2.session.stage = .ended ∨ r.2.session.stage = .awaitingChoice := by
  cases choosing with
  | entering picked loader ok rest =>
    rcases rest.goes with ⟨ended, -⟩ | ⟨going, -⟩
    · exact .inl ended
    · exact .inr going
  | rejected unpicked few => exact .inr waiting
  | _ => exact .inl rfl

end View

namespace Play

variable {h : Host σ} {p : Play σ}

/-- That a session is over, and that this is what the answer tells of. -/
def Over (r : Option Failure × Play σ) : Prop :=
  r.2.session.stage = .ended ∧ r.1 = r.2.session.ending

theorem over_finish (p : Play σ) (f : Failure) : Over (p.finish f) := by
  have seen := seen_finish p f
  have session : (p.finish f).2.session = p.session.finished f := congrArg (·.2.session) seen
  exact ⟨by rw [session]; rfl, by rw [session]; rfl⟩

theorem over_unanswered (h : Host σ) (cause : Failure) (p : Play σ) :
    Over (p.unanswered h cause) := by
  unfold unanswered
  split
  · exact over_finish _ _
  · dsimp only
    split
    · exact over_finish _ _
    · exact over_finish _ _

theorem over_attend (h : Host σ) (last : Nat → σ → Failure × σ) (answers : List (Answer σ))
    (going : p.session.stage = .ended ∨ p.session.stage = .awaitingChoice) :
    Over (p.attend h last answers) := by
  -- A session that does not wait for a choice is over, so the loop never stops short.
  induction p, answers using attend_induct h with
  | done p answers busy =>
    rw [attend_of_ne h last answers busy]
    exact ⟨going.resolve_right busy, rfl⟩
  | last p waiting =>
    rw [attend_nil waiting]
    exact over_unanswered h _ _
  | failed p answer rest cause w waiting given =>
    rw [attend_unanswered waiting given]
    exact over_unanswered h _ _
  | given p answer rest input w waiting given ih =>
    have waits : ({ p with world := w } : Play σ).session.stage = .awaitingChoice := waiting
    rw [attend_answered waiting given]
    exact ih ((choose_choosing h input waits).stage waits)

theorem over_run (fresh : p.session.stage = .awaitingEntry) (h : Host σ) (player : Player σ)
    (entry : Address) : Over (p.run h (some player) entry) := by
  have goes := (start_starting h entry fresh).goes
  rw [run_some]
  split
  · refine over_attend h _ _ ?_
    rcases goes with ⟨ended, -⟩ | ⟨going, -⟩
    · exact .inl ended
    · exact .inr going
  · next failed => exact goes.resolve_right fun going => failed going.2

/-! ## What is recorded of the end -/

/-- The beginning of a run is told. -/
theorem began_run (fresh : p.session.stage = .awaitingEntry) (h : Host σ) (player : Player σ)
    (entry : Address) : .began entry.text ∈ (p.run h (some player) entry).2.events := by
  have begun : p.events ++ [.began entry.text] <+: (p.begun entry).events :=
    prefix_emit (p := p.emit (.began entry.text)) (List.prefix_refl _) _
  have started : p.events ++ [.began entry.text] <+: (p.start h entry).2.events := by
    unfold start
    rw [if_neg (not_not.mpr fresh)]
    apply prefix_unlessHalted h begun
    exact prefix_pursue h _ _ begun
  have ran : p.events ++ [.began entry.text] <+: (p.run h (some player) entry).2.events := by
    rw [run_some]
    split
    · exact (kept_events _).attend h _ _ started
    · exact started
  exact ran.subset (by simp)

/-- What is told of a session that is over: nothing but its end, or its beginning, what happened and
    its end. -/
theorem Leads.story_ended {id : Text} {maxRetries : Int} {items : List Text} {l : Loader} {w : σ}
    (leads : Leads ⟨{ id, maxRetries, inventory := .ofItems items }, l, w, []⟩ p)
    (ended : p.session.stage = .ended) :
    ∃ f, p.session.ending = some f ∧ (p.story = p.session.farewell f ∨
      ∃ entry notes, p.story = .began entry :: (List.map Note.event notes ++ p.session.farewell f)) := by
  have fresh : ({ id, maxRetries, inventory := .ofItems items } : Session).Visited
      (items.map Text.fold).toFinset [] :=
    ⟨rfl, Inventory.keyed_ofItems items, Inventory.folded_ofItems items⟩
  obtain ⟨visits, -, account⟩ := Play.Leads.accounted rfl fresh leads
  rw [show p.view.session.stage = .ended from ended] at account
  obtain ⟨f, ending, ⟨-, story⟩ | ⟨entry, notes, place, story, -⟩⟩ := account
  · exact ⟨f, ending, .inl story⟩
  · exact ⟨f, ending, .inr ⟨entry, notes, story⟩⟩

end Play

/-- The outcome with which a recorder is asked to close a session. -/
def Transcript.Call.outcome? : Transcript.Call → Option Text
  | .close _ outcome => some outcome
  | .start .. | .append .. => none

/-- A recorder that kept the beginning of a session is asked once to close it. -/
theorem Play.Leads.outcomes {ρ : Type} {p : Play σ} {id : Text} {maxRetries : Int}
    {items : List Text} {l : Loader} {w : σ}
    (leads : Leads ⟨{ id, maxRetries, inventory := .ofItems items }, l, w, []⟩ p)
    (ended : p.session.stage = .ended) {f : Failure} (ending : p.session.ending = some f)
    (recorder : Transcript.Recorder ρ) (keeper : ρ) {entry : Text}
    (began : .start id entry true ∈ recorder.calls id keeper p.events) :
    (recorder.calls id keeper p.events).filterMap Transcript.Call.outcome? = [f.code.text] := by
  have told : recorder.calls id keeper p.events = recorder.calls id keeper p.story :=
    (Transcript.Recording.calls_told recorder id keeper).symm
  rw [told] at began ⊢
  obtain ⟨g, same, story | ⟨start, notes, story⟩⟩ := leads.story_ended ended
  all_goals obtain rfl : f = g := Option.some.inj (ending.symm.trans same)
  · rw [story, Transcript.Recording.calls_eq_nil recorder id keeper
      (by simp [Session.farewell, Event.begins])] at began
    cases began
  · have split : p.story = .began start ::
        ((notes ++ [p.session.lastNote f]).map Note.event ++ [f.code].map Event.closed) := by
      simp [story, Session.farewell, Session.lastNote, Note.event]
    rw [split] at began ⊢
    rcases calls_notes recorder id keeper start (notes ++ [p.session.lastNote f]) [f.code] with
      kept | refused
    · have silent : (List.map (Note.call id) (notes ++ [p.session.lastNote f])).filterMap
          Transcript.Call.outcome? = [] := by
        rw [List.filterMap_map, List.filterMap_eq_nil_iff]
        intro n member
        rfl
      rw [kept, List.filterMap_cons, List.filterMap_append, silent]
      rfl
    · rw [refused] at began
      simp at began

end Gamebook
