import Gamebook.Proofs.Session.Mistakes
import Gamebook.Proofs.Session.Retelling
import Mathlib.Data.List.DropRight

/-! # How patient a session is

A session may be limited: so many invalid choices in a row end it. No step but the turning down of
an input looks at the limit, and that step only asks whether the row is long enough. So a limited
session goes the way of an unlimited one (`Play.limit`) up to the input that completes the row. How
long the row is can be read off the answers to the inputs (`Play.streak`); that the session counts
the same, from the last entry of a scene on, is an invariant of its steps.
-/

namespace Gamebook

variable {σ : Type}

/-- Whether an answer turns an input down. -/
def turnsDown (answer : Option Failure) : Bool :=
  answer.any fun f => f.code = .invalidChoice

/-- That something is told of entering a scene. -/
def Event.isEntry : Event → Bool
  | .happened .enter _ _ => true
  | _ => false

/-- How many invalid choices transcripts have been told of since a scene was last entered. -/
def mistakesSinceEntry (story : List Event) : Nat :=
  (story.rtakeWhile fun e => !e.isEntry).countP Event.isMistake

namespace Play

/-- The play of a session that so many invalid choices in a row end. -/
def limited (n : Int) (p : Play σ) : Play σ :=
  { p with session := { p.session with maxRetries := n } }

/-- An answer, with the session limited after it. -/
def limit (n : Int) (r : Option Failure × Play σ) : Option Failure × Play σ :=
  (r.1, r.2.limited n)

/-- The answers to inputs in turn. -/
def answers (h : Host σ) : List Text → Play σ → List (Option Failure)
  | [], _ => []
  | input :: rest, p => (p.choose h input).1 :: answers h rest (p.choose h input).2

/-- How many of the last inputs, in a row, are turned down. -/
def streak (h : Host σ) (p : Play σ) (inputs : List Text) : Nat :=
  ((p.answers h inputs).rtakeWhile turnsDown).length

/-- That no input is the last of so many in a row that are turned down. -/
def Bears (h : Host σ) (n : Nat) (p : Play σ) (inputs : List Text) : Prop :=
  ∀ front, front <+: inputs → p.streak h front ≠ n

/-! ## Steps that do not look at the limit -/

section Limit

variable {h : Host σ} {n : Int} {p : Play σ} {next : Play σ → Option Failure × Play σ}

theorem limited_finish (n : Int) (p : Play σ) (f : Failure) :
    (p.limited n).finish f = limit n (p.finish f) := by
  unfold finish endingNote
  dsimp only
  split
  · rfl
  · rfl

theorem limited_unlessHalted (same : ∀ q, next (q.limited n) = limit n (next q)) :
    (p.limited n).unlessHalted h next = limit n (p.unlessHalted h next) := by
  have world : (p.limited n).world = p.world := rfl
  unfold unlessHalted
  rw [world]
  dsimp only
  split
  · exact limited_finish n (p.asked h) _
  · exact same (p.asked h)

theorem limited_shown {result : Option Failure × σ}
    (same : next (limited n { p with world := result.2 }) =
      limit n (next { p with world := result.2 })) :
    (p.limited n).shown result next = limit n (p.shown result next) := by
  unfold shown
  dsimp only
  split
  · exact limited_finish n { p with world := result.2 } _
  · exact same

theorem limited_present (h : Host σ) (n : Int) (p : Play σ) :
    (p.limited n).present h = limit n (p.present h) :=
  limited_shown rfl

theorem limited_offerBranches (h : Host σ) (n : Int) (found : Found) (p : Play σ) :
    (p.limited n).offerBranches h found = limit n (p.offerBranches h found) := by
  have inventory : (p.limited n).session.inventory = p.session.inventory := rfl
  have loader : (p.limited n).loader = p.loader := rfl
  unfold offerBranches
  rw [inventory, loader]
  dsimp only
  split
  · exact limited_finish n p _
  · split
    · exact limited_finish n p _
    · exact limited_present h n { p with session := { p.session with
        offers := found.scene.offers p.session.inventory, stage := .awaitingChoice } }

theorem limited_changes (changed : List Effect) (n : Int) (p : Play σ) :
    changed.foldl (fun p e => p.happen .inventory e.text) (p.limited n) =
      (changed.foldl (fun p e => p.happen .inventory e.text) p).limited n := by
  induction changed generalizing p with
  | nil => rfl
  | cons e rest ih => exact ih (p.happen .inventory e.text)

theorem limited_arrive (found : Found) (inventory : Inventory) (changed : List Effect) (n : Int)
    (p : Play σ) :
    (p.limited n).arrive found inventory changed =
      (p.arrive found inventory changed).limited n := by
  have told := limited_changes changed n
    (({ p with session := { p.session with current := some found, inventory, retries := 0 } } :
      Play σ).happen .enter [])
  unfold arrive
  exact congrArg (fun q : Play σ => q.note .debug "entered scene" _) told

theorem limited_receive (h : Host σ) (found : Found) (inventory : Inventory)
    (changed : List Effect) (n : Int) (p : Play σ) :
    (p.limited n).receive h found inventory changed =
      limit n (p.receive h found inventory changed) := by
  unfold receive
  rw [limited_arrive]
  dsimp only
  split
  · exact limited_shown (limited_offerBranches h n found _)
  · exact limited_offerBranches h n found _

theorem limited_enter (h : Host σ) (n : Int) (found : Found) (p : Play σ) :
    (p.limited n).enter h found = limit n (p.enter h found) := by
  unfold enter
  exact limited_unlessHalted (p := { p with session := { p.session with stage := .presenting } })
    (limited_receive h found _ _ n)

theorem limited_pursue (h : Host σ) (n : Int) (f : Fetched σ Found) (locate : Failure → Failure)
    (p : Play σ) : (p.limited n).pursue h f locate = limit n (p.pursue h f locate) := by
  unfold pursue
  split
  · exact limited_finish n (p.fetched f) _
  · exact limited_enter h n _ (p.fetched f)

theorem limited_start (h : Host σ) (n : Int) (entry : Address) (p : Play σ) :
    (p.limited n).start h entry = limit n (p.start h entry) := by
  have stage : (p.limited n).session.stage = p.session.stage := rfl
  unfold start
  rw [stage]
  split
  · rfl
  · exact limited_unlessHalted (p := p.begun entry) fun q =>
      limited_pursue h n (q.loader.resolve h.read entry q.world) id q

theorem limited_take (h : Host σ) (n : Int) (k : Nat) (offer : Offer) (p : Play σ) :
    (p.limited n).take h k offer = limit n (p.take h k offer) := by
  unfold take
  exact limited_pursue h n _ _ (p.leaving k offer)

theorem limited_insist {problem : Problem} {address : Text} (unlimited : p.session.maxRetries ≤ 0)
    (few : ¬(0 < n ∧ n ≤ p.session.retries)) :
    (p.limited n).insist h problem address = limit n (p.insist h problem address) := by
  have never : ¬(0 < p.session.maxRetries ∧ p.session.maxRetries ≤ p.session.retries) := by
    omega
  unfold insist
  rw [if_neg never, if_neg (by exact few), limited_present]
  cases p.present h with
  | mk answer q =>
    cases answer with
    | some failure => rfl
    | none => rfl

/-- Turning an input down looks at the limit only to see whether the row is long enough. -/
theorem limited_reject {input : Text} (unlimited : p.session.maxRetries ≤ 0)
    (few : ¬(0 < n ∧ n ≤ (p.session.retries + 1 : Nat))) :
    (p.limited n).reject h input = limit n (p.reject h input) := by
  unfold reject
  exact limited_shown (p := p.mistaken input) (limited_insist unlimited few)

end Limit

end Play

/-! ## How long the row is -/

theorem mistakesSinceEntry_arrival (story : List Event) (found : Found) (inv : Inventory) :
    mistakesSinceEntry (story ++ found.arrival inv) = 0 := by
  let changes : List Event :=
    (inv.applyAll found.scene.effects).2.map (.happened .inventory found.address.text ·.text)
  have plain : ∀ e ∈ changes.reverse, (!e.isEntry) = true ∧ e.isMistake = false := by
    simp [changes, Event.isEntry, Event.isMistake]
  have since : (story ++ found.arrival inv).rtakeWhile (fun e => !e.isEntry) = changes := by
    rw [List.rtakeWhile, Found.arrival, List.reverse_append, List.reverse_cons, List.append_assoc,
      List.takeWhile_append_of_pos fun e member => (plain e member).1]
    simp [Event.isEntry, changes]
  rw [mistakesSinceEntry, since, List.countP_eq_zero]
  intro e member
  simp [(plain e (List.mem_reverse.mpr member)).2]

theorem mistakesSinceEntry_mistake (v : View) (input : Text) :
    mistakesSinceEntry (v.mistake input).story = mistakesSinceEntry v.story + 1 := by
  simp [mistakesSinceEntry, View.mistake, View.tell, Event.isEntry, Event.isMistake]

namespace View

variable {h : Host σ} {v : View} {r : Option Failure × View}

/-- A scene that has just been entered starts a new row. -/
theorem Entering.retries {found : Found} (entering : v.Entering h found r)
    (waiting : r.2.session.stage = .awaitingChoice) :
    r.2.session.retries = 0 ∧ mistakesSinceEntry r.2.story = 0 := by
  cases entering with
  | awaiting something whole => exact ⟨rfl, mistakesSinceEntry_arrival ..⟩
  | _ => cases waiting

theorem Starting.retries {entry : Address} {w : σ} (starting : v.Starting h entry w r)
    (waiting : r.2.session.stage = .awaitingChoice) :
    r.2.session.retries = 0 ∧ mistakesSinceEntry r.2.story = 0 := by
  cases starting with
  | entering kept ok rest => exact rest.retries waiting
  | halted asked => cases waiting
  | unresolved kept failed => cases waiting

/-- So does a choice that the session goes on from. -/
theorem Choosing.retries {input : Text} {w : σ} {n : Nat} {offer : Offer}
    (picked : pick? v.session.offers input = some (n, offer)) (choosing : v.Choosing h input w r)
    (waiting : r.2.session.stage = .awaitingChoice) :
    r.2.session.retries = 0 ∧ mistakesSinceEntry r.2.story = 0 := by
  cases choosing with
  | entering here kept ok rest => exact rest.retries waiting
  | halted asked => cases waiting
  | unresolved here kept failed => cases waiting
  | unshown unpicked refused => cases picked.symm.trans unpicked
  | exhausted unpicked many => cases picked.symm.trans unpicked
  | rejected unpicked few => cases picked.symm.trans unpicked

end View

namespace Play

section Streak

variable {h : Host σ} {st : Story} {p : Play σ} {count : Nat}

theorem chooseAll_append (h : Host σ) (p : Play σ) (inputs more : List Text) :
    p.chooseAll h (inputs ++ more) = (p.chooseAll h inputs).chooseAll h more := by
  simp [chooseAll, makeAll]

theorem chooseAll_snoc (h : Host σ) (p : Play σ) (inputs : List Text) (input : Text) :
    p.chooseAll h (inputs ++ [input]) = ((p.chooseAll h inputs).choose h input).2 :=
  chooseAll_append h p inputs [input]

theorem answers_snoc (h : Host σ) (p : Play σ) (inputs : List Text) (input : Text) :
    p.answers h (inputs ++ [input]) =
      p.answers h inputs ++ [((p.chooseAll h inputs).choose h input).1] := by
  induction inputs generalizing p with
  | nil => rfl
  | cons first rest ih => exact congrArg _ (ih (p.choose h first).2)

/-- An input that is turned down makes the row longer, and any other one breaks it. -/
theorem streak_snoc (h : Host σ) (p : Play σ) (inputs : List Text) (input : Text) :
    p.streak h (inputs ++ [input]) =
      if (p.chooseAll h inputs).rejects h input then p.streak h inputs + 1 else 0 := by
  have same : turnsDown ((p.chooseAll h inputs).choose h input).1 =
      (p.chooseAll h inputs).rejects h input := rfl
  rw [streak, answers_snoc, List.rtakeWhile_concat, same]
  split
  · simp [streak]
  · rfl

/-- That a session which waits for a choice has counted so many invalid ones, and transcripts have
    been told of so many since a scene was last entered. -/
def Counts (p : Play σ) (count : Nat) : Prop :=
  p.session.stage = .awaitingChoice →
    p.session.retries = count ∧ mistakesSinceEntry p.story = count

theorem counts_start (h : Host σ) (entry : Address) (fresh : p.session.stage = .awaitingEntry) :
    (p.start h entry).2.Counts 0 :=
  (start_starting h entry fresh).retries

/-- An input that is not a choice is turned down, if no number of them ends the session. -/
theorem rejects_of_unpicked (serves : h.Serves st) (lenient : p.Lenient) {input : Text}
    (waiting : p.session.stage = .awaitingChoice) (unpicked : pick? p.session.offers input = none) :
    p.rejects h input = true := by
  have chosen := (choose_choosing h input waiting).eq_chosen serves lenient.unlimited
  have unpicked : pick? p.view.session.offers input = none := unpicked
  rw [View.chosen, unpicked] at chosen
  exact rejects_iff.mpr ⟨_, congrArg Prod.fst chosen, rfl⟩

theorem Counts.choose (serves : h.Serves st) (lenient : p.Lenient) (counts : p.Counts count)
    (input : Text) :
    (p.choose h input).2.Counts (if p.rejects h input then count + 1 else 0) := by
  intro waits
  by_cases rejected : p.rejects h input = true
  · rw [if_pos rejected]
    obtain ⟨retries, told⟩ := counts (unpicked_of_rejects lenient.sound rejected).1
    have view := view_of_rejects serves lenient rejected
    have more : (p.choose h input).2.session.retries = p.session.retries + 1 :=
      congrArg (·.session.retries) view
    have story : (p.choose h input).2.story = (p.view.mistake input).story :=
      congrArg View.story view
    refine ⟨by omega, ?_⟩
    rw [story, mistakesSinceEntry_mistake]
    exact congrArg (· + 1) told
  · rw [if_neg rejected]
    by_cases waiting : p.session.stage = .awaitingChoice
    · -- The input was a choice, since any other one would have been turned down.
      obtain ⟨⟨n, offer⟩, picked⟩ : ∃ choice, pick? p.session.offers input = some choice := by
        apply Option.ne_none_iff_exists'.mp
        intro unpicked
        exact rejected (rejects_of_unpicked serves lenient waiting unpicked)
      exact (choose_choosing h input waiting).retries picked waits
    · rw [choose_of_ne h input waiting] at waits
      exact absurd waits waiting

/-- The session counts the row that the answers show. -/
theorem Counts.chooseAll (serves : h.Serves st) (lenient : p.Lenient) (counts : p.Counts 0)
    (inputs : List Text) : (p.chooseAll h inputs).Counts (p.streak h inputs) := by
  induction inputs using List.reverseRecOn with
  | nil => exact counts
  | append_singleton inputs input ih =>
    rw [chooseAll_snoc, streak_snoc]
    exact ih.choose serves (lenient.chooseAll inputs) input

/-! ## Up to the limit and at it -/

theorem limited_choose (serves : h.Serves st) (lenient : p.Lenient) {n : Nat} {input : Text}
    (few : p.rejects h input = true → p.session.retries + 1 < n) :
    (p.limited n).choose h input = limit n (p.choose h input) := by
  by_cases waiting : p.session.stage = .awaitingChoice
  · have live := serves.live p.world
    have offers : (p.limited n).session.offers = p.session.offers := rfl
    rw [choose_of_live (p := p.limited n) waiting live, choose_of_live waiting live, offers]
    cases picked : pick? p.session.offers input with
    | some choice => exact limited_take h n choice.1 choice.2 (p.asked h)
    | none =>
      have fewer := few (rejects_of_unpicked serves lenient waiting picked)
      have short : ¬(0 < (n : Int) ∧ (n : Int) ≤ (p.session.retries + 1 : Nat)) := by
        omega
      exact limited_reject (p := p.asked h) lenient.unlimited short
  · rw [choose_of_ne h input waiting]
    exact choose_of_ne (p := p.limited n) h input waiting

/-- As long as the session bears the inputs, the limit makes no difference. -/
theorem limited_chooseAll (serves : h.Serves st) (lenient : p.Lenient) (counts : p.Counts 0)
    {n : Nat} (positive : 0 < n) {inputs : List Text} (bears : p.Bears h n inputs) :
    p.streak h inputs < n ∧ (p.limited n).answers h inputs = p.answers h inputs ∧
      (p.limited n).chooseAll h inputs = (p.chooseAll h inputs).limited n := by
  induction inputs using List.reverseRecOn with
  | nil => exact ⟨positive, rfl, rfl⟩
  | append_singleton inputs input ih =>
    obtain ⟨short, answers, plays⟩ :=
      ih fun front within => bears front (within.trans (List.prefix_append ..))
    have longer := streak_snoc h p inputs input
    have other := bears (inputs ++ [input]) (List.prefix_refl _)
    have still := lenient.chooseAll (h := h) inputs
    have few : (p.chooseAll h inputs).rejects h input = true →
        (p.chooseAll h inputs).session.retries + 1 < n := by
      intro rejected
      rw [if_pos rejected] at longer
      have waiting := (unpicked_of_rejects still.sound rejected).1
      have row := (counts.chooseAll serves lenient inputs waiting).1
      omega
    have same := limited_choose serves still few
    refine ⟨?_, ?_, ?_⟩
    · split at longer
      · omega
      · omega
    · rw [answers_snoc, answers_snoc, answers, plays, same]
      rfl
    · rw [chooseAll_snoc, chooseAll_snoc, plays, same]
      rfl

/-- The failure that a row of invalid choices ends a session with. -/
def exhaustion (p : Play σ) (n : Nat) : Failure :=
  .ofReport { problem := .tooManyInvalidChoices n, address := p.session.eventAddress }

/-- An input that completes the row is complained about, and then the session is over. -/
theorem limited_choose_exhausted (serves : h.Serves st) (lenient : p.Lenient) {n : Nat}
    {input : Text} (rejected : p.rejects h input = true) (row : p.session.retries + 1 = n) :
    (p.limited n).choose h input =
      Play.finish { (p.limited n).mistaken input with
        world := (h.complain (Problem.invalidChoice input p.session.offers.length).message
          (h.halted p.world).2).2 } (p.exhaustion n) := by
  obtain ⟨waiting, unpicked⟩ := unpicked_of_rejects lenient.sound rejected
  have unpicked : pick? (p.limited n).session.offers input = none := unpicked
  rw [choose_of_live (p := p.limited n) waiting (serves.live p.world), unpicked]
  dsimp only
  rw [reject, shown_of_ok (serves.complains ..), insist]
  subst row
  have many : 0 < ((p.session.retries + 1 : Nat) : Int) ∧
      ((p.session.retries + 1 : Nat) : Int) ≤ (p.session.retries + 1 : Nat) := by
    omega
  rw [if_pos (by exact many)]
  rfl

theorem seen_exhausted (serves : h.Serves st) (lenient : p.Lenient) {n : Nat} {input : Text}
    (rejected : p.rejects h input = true) (row : p.session.retries + 1 = n) :
    seen ((p.limited n).choose h input) =
      ((p.limited n).view.mistake input).finish (p.exhaustion n) := by
  rw [limited_choose_exhausted serves lenient rejected row, seen_finish, ← view_mistaken]
  rfl

theorem chooseAll_of_ended (h : Host σ) (ended : p.session.stage = .ended) (inputs : List Text) :
    p.chooseAll h inputs = p := by
  induction inputs with
  | nil => rfl
  | cons input rest ih =>
    have same : (p.choose h input).2 = p := by
      rw [choose_of_ne h input (by simp [ended])]
    calc p.chooseAll h (input :: rest)
      _ = (p.choose h input).2.chooseAll h rest := rfl
      _ = p := by rw [same, ih]

end Streak

end Play

/-- A limit to the invalid choices in a row cuts a session short and does nothing else, if the host
    serves a story. The row at the end of some inputs consists of the invalid choices since a scene
    was last entered. Up to the input that completes the row, a limited session gives the same
    answers as one without a limit and is the same play but for the limit: the same session and
    files, the same shown, told and logged. The input that completes the row is told to transcripts
    and complained about, but the choices are not shown again; then the session is over, which
    transcripts are told too, and no later input changes anything. -/
theorem retry_limit_only_truncates {h : Host σ} {st : Story} (serves : h.Serves st)
    {p : Play (σ × List Shown)} (reachable : p.Reachable)
    (fresh : p.session.stage = .awaitingEntry) (unlimited : p.session.maxRetries = 0) {n : Nat}
    (positive : 0 < n) (entry : Address) :
    let k := h.watched
    let free := (p.start k entry).2
    let bound := ((p.limited n).start k entry).2
    ((p.limited n).start k entry).1 = (p.start k entry).1 ∧ bound = free.limited n ∧
    (∀ inputs, (free.chooseAll k inputs).session.stage = .awaitingChoice →
      free.streak k inputs = mistakesSinceEntry (free.chooseAll k inputs).story) ∧
    (∀ inputs, free.Bears k n inputs →
      bound.answers k inputs = free.answers k inputs ∧
      bound.chooseAll k inputs = (free.chooseAll k inputs).limited n) ∧
    ∀ inputs input, free.Bears k n inputs → free.streak k (inputs ++ [input]) = n →
      let before := free.chooseAll k inputs
      let after := ((bound.chooseAll k inputs).choose k input).2
      let failure := before.exhaustion n
      ((bound.chooseAll k inputs).choose k input).1 = some failure ∧
      failure.code = .retriesExhausted ∧
      after.session = (before.limited n).session.mistaken.finished failure ∧
      after.loader = before.loader ∧
      after.story = before.story ++
        [.happened .invalidChoice before.session.eventAddress input,
          .happened .ending before.session.eventAddress failure.text, .closed .retriesExhausted] ∧
      after.world.2 = before.world.2 ++
        [.complaint (Problem.invalidChoice input before.session.offers.length).message] ∧
      ∀ more, bound.chooseAll k (inputs ++ input :: more) = after := by
  intro k free bound
  have served : k.Serves st := serves.watched
  have started : (p.limited n).start k entry = Play.limit n (p.start k entry) :=
    Play.limited_start k n entry p
  have limited : bound = free.limited n := congrArg Prod.snd started
  have lenient : free.Lenient :=
    Play.Lenient.make ⟨reachable.sound, unlimited.le⟩ k (.start entry)
  have counts : free.Counts 0 := Play.counts_start k entry fresh
  refine ⟨by rw [started]; rfl, limited, ?_, ?_, ?_⟩
  · intro inputs waiting
    exact (counts.chooseAll served lenient inputs waiting).2.symm
  · intro inputs bears
    rw [limited]
    exact (Play.limited_chooseAll served lenient counts positive bears).2
  · intro inputs input bears completes before after failure
    obtain ⟨short, -, plays⟩ :=
      Play.limited_chooseAll served lenient counts positive bears
    rw [← limited] at plays
    have still : before.Lenient := lenient.chooseAll inputs
    have longer := Play.streak_snoc k free inputs input
    have rejected : before.rejects k input = true := by
      by_contra kept
      rw [if_neg kept] at longer
      omega
    rw [if_pos rejected] at longer
    have waiting := (Play.unpicked_of_rejects still.sound rejected).1
    have row : before.session.retries + 1 = n := by
      rw [(counts.chooseAll served lenient inputs waiting).1]
      omega
    have view := Play.seen_exhausted served still rejected row
    have world := congrArg (·.2.world.2)
      (Play.limited_choose_exhausted served still rejected row)
    dsimp only at world
    rw [Play.finish_world] at world
    have same : (bound.chooseAll k inputs).choose k input = (before.limited n).choose k input :=
      congrArg (·.choose k input) plays
    rw [← same] at view world
    refine ⟨congrArg Prod.fst view, rfl, congrArg (·.2.session) view, congrArg (·.2.loader) view,
      ?_, ?_, ?_⟩
    · have told : after.story = before.story ++ _ ++ _ := congrArg (·.2.story) view
      rw [told, List.append_assoc]
      rfl
    · exact world
    · intro more
      have ended : after.session.stage = .ended := congrArg (·.2.session.stage) view
      rw [Play.chooseAll_append]
      exact Play.chooseAll_of_ended k ended more

/-- A story of one file, in which a player may wait in a cell or leave it for a yard with no way
    on. -/
def Story.cell : Story where
  directory := "/"
  files path :=
    if path = ("/a" : Text) then
      .ok (("@module m: @scene s: select \x7b \"wait\" => s, \"leave\" => t \x7d;" : Text) ++
        ("@scene t: select \x7b has \"key\" ? \"back\" => s \x7d;@end-module" : Text))
    else .error (.ofProblem .sessionCancelled)

/-- Of two invalid choices in a row that end a session the first does not count any more when the
    player has waited after it. -/
theorem retry_limit_only_truncates_cell :
    let k := Story.cell.host.watched
    let p : Play (Unit × List Shown) := ⟨{ id := "c" }, { directory := "/" }, ((), []), []⟩
    let free := (p.start k ⟨"a", "m", "s"⟩).2
    let bound := ((p.limited 2).start k ⟨"a", "m", "s"⟩).2
    let inputs : List Text := ["7", "1", "x"]
    free.Bears k 2 inputs ∧ free.streak k (inputs ++ [("" : Text)]) = 2 ∧
      (free.answers k inputs).map Option.isSome = [true, false, true] ∧
      bound.answers k inputs = free.answers k inputs ∧
      ((bound.chooseAll k inputs).choose k "").1 =
        some ((free.chooseAll k inputs).exhaustion 2) := by
  intro k p free bound inputs
  have facts : (∀ front ∈ inputs.inits, free.streak k front ≠ 2) ∧
      free.streak k (inputs ++ [("" : Text)]) = 2 ∧
      (free.answers k inputs).map Option.isSome = [true, false, true] := by
    decide +kernel
  obtain ⟨each, completes, waits⟩ := facts
  have bears : free.Bears k 2 inputs := by
    intro front within
    exact each front ((List.mem_inits _ _).mpr within)
  obtain ⟨-, -, -, same, ends⟩ := retry_limit_only_truncates Story.cell.host_serves
    (.fresh "c" 0 {} ((), []) (Loader.readFrom_empty _ "/")) rfl rfl (n := 2) (by decide)
    ⟨"a", "m", "s"⟩
  exact ⟨bears, completes, waits, (same inputs bears).1, (ends inputs "" bears completes).1⟩

end Gamebook
