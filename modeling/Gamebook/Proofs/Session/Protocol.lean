import Gamebook.Proofs.Recording
import Gamebook.Proofs.Session.Chronicle
import Mathlib.Computability.RegularExpressions
import Mathlib.Data.List.Chain

/-! # The protocol of transcripts

A recorder sees a session as one word: scenes that are entered, each followed by the changes of the
inventory, invalid choices, choices that lead on, and the end. `Protocol.session` is the language
of such words. Every tale of a session is a word of it or the beginning of one.
-/

namespace Gamebook

namespace Protocol

open RegularExpression
open scoped Computability

def arriving : RegularExpression Moment :=
  char .enter * (char .inventory).star

def turn : RegularExpression Moment :=
  (char .invalidChoice).star * char .choice * arriving

/-- A session that has come to a scene. -/
def standing : RegularExpression Moment :=
  arriving * turn.star * (char .invalidChoice).star

/-- A whole session. It may end before its first scene, in a scene, or on the way to the next. -/
def session : RegularExpression Moment :=
  (1 + standing * (1 + char .choice)) * char .ending

/-- The moments of a tale that has come to a place. -/
def upTo : Whereabouts → RegularExpression Moment
  | .inside => standing
  | .between => 1 + standing * char .choice

theorem append_mem {P Q : RegularExpression Moment} {x y : List Moment} (first : x ∈ P.matches')
    (second : y ∈ Q.matches') : x ++ y ∈ (P * Q).matches' :=
  Language.append_mem_mul first second

theorem append_mem_star {P : RegularExpression Moment} {x y : List Moment}
    (first : x ∈ P.star.matches') (second : y ∈ P.matches') : x ++ y ∈ P.star.matches' := by
  have closed : P.matches'∗ * P.matches' ≤ P.matches'∗ := kstar_mul_le_kstar
  exact closed (Language.append_mem_mul first second)

theorem replicate_mem_star (m : Moment) (n : Nat) :
    List.replicate n m ∈ (char m).star.matches' := by
  induction n with
  | zero => exact Language.nil_mem_kstar _
  | succ n ih =>
    rw [List.replicate_succ']
    exact append_mem_star ih rfl

theorem arriving_standing {x y : List Moment} (before : x ∈ (upTo .between).matches')
    (arrival : y ∈ arriving.matches') : x ++ y ∈ standing.matches' := by
  have nothing {P : RegularExpression Moment} : [] ∈ P.star.matches' := Language.nil_mem_kstar _
  rcases before with none | ⟨stood, ⟨start, ⟨first, here, turns, before, rfl⟩, idle, wrong, rfl⟩,
    choice, rfl, rfl⟩
  · obtain rfl : x = [] := none
    have stands : y ++ [] ++ [] ∈ standing.matches' :=
      append_mem (append_mem arrival nothing) nothing
    simpa using stands
  · have last : idle ++ [.choice] ++ y ∈ turn.matches' :=
      append_mem (append_mem wrong rfl) arrival
    have stands : first ++ (turns ++ (idle ++ [.choice] ++ y)) ++ [] ∈ standing.matches' :=
      append_mem (append_mem here (append_mem_star before last)) nothing
    simpa using stands

theorem arriving_notes (found : Found) (items : Finset Text) :
    (found.notes items).map Note.moment ∈ arriving.matches' := by
  have arrives : [.enter] ++ List.replicate (Effect.changing items found.scene.effects).length
      .inventory ∈ arriving.matches' := append_mem rfl (replicate_mem_star ..)
  simpa [Found.notes, Found.note, Function.comp_def, List.map_const'] using arrives

end Protocol

/-- That every note carries the address of the latest scene told to be entered, which is `latest` at
    the front. -/
def Addressed : (latest : Text) → List Note → Prop
  | _, [] => True
  | latest, n :: rest =>
    if n.moment = .enter then Addressed n.address rest
    else n.address = latest ∧ Addressed latest rest

/-- The address of the latest scene told to be entered, which was `latest` before. -/
def latestEntered : (latest : Text) → List Note → Text
  | latest, [] => latest
  | latest, n :: rest =>
    if n.moment = .enter then latestEntered n.address rest else latestEntered latest rest

/-- That a choice is followed only by a scene that is entered or by the end. -/
def Note.Precedes (n next : Note) : Prop :=
  n.moment = .choice → next.moment = .enter ∨ next.moment = .ending

/-- Whether a note tells of entering a scene or of what that changed. -/
def Note.isArrival (n : Note) : Bool :=
  n.moment = .enter || n.moment = .inventory

theorem addressed_append {latest : Text} {before after : List Note} :
    Addressed latest (before ++ after) ↔
      Addressed latest before ∧ Addressed (latestEntered latest before) after := by
  induction before generalizing latest with
  | nil => simp [Addressed, latestEntered]
  | cons n rest ih =>
    by_cases enters : n.moment = .enter
    · simp [Addressed, latestEntered, enters, ih]
    · simp [Addressed, latestEntered, enters, ih, and_assoc]

theorem latestEntered_append (latest : Text) (before after : List Note) :
    latestEntered latest (before ++ after) = latestEntered (latestEntered latest before) after := by
  induction before generalizing latest with
  | nil => rfl
  | cons n rest ih =>
    by_cases enters : n.moment = .enter
    · simp [latestEntered, enters, ih]
    · simp [latestEntered, enters, ih]

namespace Found

variable (found : Found) (items : Finset Text)

theorem addressed_notes (latest : Text) : Addressed latest (found.notes items) := by
  have changes (effects : List Effect) :
      Addressed found.address.text (effects.map (found.note .inventory ·.text)) := by
    induction effects with
    | nil => trivial
    | cons e rest ih => simpa [Addressed, note] using ih
  simpa [notes, Addressed, note] using changes _

theorem latestEntered_notes (latest : Text) :
    latestEntered latest (found.notes items) = found.address.text := by
  have changes (effects : List Effect) :
      latestEntered found.address.text (effects.map (found.note .inventory ·.text)) =
        found.address.text := by
    induction effects with
    | nil => rfl
    | cons e rest ih => simpa [latestEntered, note] using ih
  simpa [notes, latestEntered, note] using changes _

theorem moment_of_mem_notes {n : Note} (member : n ∈ found.notes items) :
    n.moment = .enter ∨ n.moment = .inventory := by
  simp only [notes, List.mem_cons, List.mem_map] at member
  rcases member with rfl | ⟨e, -, rfl⟩
  · exact .inl rfl
  · exact .inr rfl

end Found

/-- The address with which a session tells of what happens after it has been in scenes, the last one
    first. -/
def addressAfter (visits : List Found) : Text :=
  (visits.head?.map (·.address.text)).getD []

namespace Tale

variable {items : Finset Text} {place : Whereabouts} {visits : List Found} {notes : List Note}

theorem moments (tale : Tale items place visits notes) :
    notes.map Note.moment ∈ (Protocol.upTo place).matches' := by
  induction tale with
  | start => exact .inl rfl
  | enter before found ih =>
    rw [List.map_append]
    exact Protocol.arriving_standing ih (Protocol.arriving_notes found _)
  | mistake before input ih =>
    obtain ⟨stood, arrived, idle, wrong, split⟩ := ih
    rw [List.map_append, ← split, List.append_assoc]
    exact Protocol.append_mem arrived (Protocol.append_mem_star wrong rfl)
  | choose before label ih =>
    rw [List.map_append]
    exact .inr (Protocol.append_mem ih rfl)

/-- A tale is a word of the protocol once its end is told. -/
theorem session_moments (tale : Tale items place visits notes) :
    notes.map Note.moment ++ [.ending] ∈ Protocol.session.matches' := by
  refine Protocol.append_mem ?_ rfl
  have moments := tale.moments
  cases place with
  | inside =>
    exact .inr ⟨_, moments, [], .inl rfl, List.append_nil _⟩
  | between =>
    rcases moments with none | ⟨stood, here, choice, chosen, split⟩
    · exact .inl none
    · exact .inr ⟨stood, here, choice, .inr chosen, split⟩

theorem addressed (tale : Tale items place visits notes) :
    Addressed [] notes ∧ latestEntered [] notes = addressAfter visits := by
  induction tale with
  | start => exact ⟨trivial, rfl⟩
  | enter before found ih =>
    rw [addressed_append, latestEntered_append]
    exact ⟨⟨ih.1, found.addressed_notes _ _⟩, found.latestEntered_notes _ _⟩
  | mistake before input ih =>
    rw [addressed_append, latestEntered_append, ih.2]
    exact ⟨⟨ih.1, by simp [Addressed, Found.note, addressAfter]⟩,
      by simp [latestEntered, Found.note]⟩
  | choose before label ih =>
    rw [addressed_append, latestEntered_append, ih.2]
    exact ⟨⟨ih.1, by simp [Addressed, Found.note, addressAfter]⟩,
      by simp [latestEntered, Found.note]⟩

theorem filter_isArrival (tale : Tale items place visits notes) :
    notes.filter Note.isArrival = arrivals items visits := by
  induction tale with
  | start => rfl
  | enter before found ih =>
    rw [List.filter_append, ih, arrivals]
    congr 1
    rw [List.filter_eq_self]
    intro n member
    rcases found.moment_of_mem_notes _ member with moment | moment
    · simp [Note.isArrival, moment]
    · simp [Note.isArrival, moment]
  | mistake before input ih => simpa [Note.isArrival, Found.note] using ih
  | choose before label ih => simpa [Note.isArrival, Found.note] using ih

theorem moment_ne_ending (tale : Tale items place visits notes) :
    ∀ n ∈ notes, n.moment ≠ .ending := by
  induction tale with
  | start => simp
  | enter before found ih =>
    intro n member
    rcases List.mem_append.mp member with earlier | arrival
    · exact ih n earlier
    · rcases found.moment_of_mem_notes _ arrival with moment | moment
      · simp [moment]
      · simp [moment]
  | mistake before input ih => simpa [Found.note, or_imp, forall_and] using ih
  | choose before label ih => simpa [Found.note, or_imp, forall_and] using ih

/-- A tale that stops in a scene does not stop at a choice. -/
theorem precedes (tale : Tale items place visits notes) :
    notes.IsChain Note.Precedes ∧
      (place = .inside → ∀ n ∈ notes.getLast?, n.moment ≠ .choice) := by
  induction tale with
  | start => simp
  | @enter visits notes before found ih =>
    have unchosen : ∀ n ∈ found.notes (heldAfter items visits), n.moment ≠ .choice := by
      intro n member
      rcases found.moment_of_mem_notes _ member with moment | moment
      · simp [moment]
      · simp [moment]
    refine ⟨List.isChain_append.mpr ⟨ih.1, ?_, ?_⟩, fun _ n last => unchosen n ?_⟩
    · rw [List.isChain_iff_forall_rel_of_append_cons_cons]
      intro n next earlier later split chosen
      exact absurd chosen (unchosen n (by simp [split]))
    · intro n last next first chosen
      obtain rfl : found.note .enter [] = next := by simpa [Found.notes] using first
      exact .inl rfl
    · rw [Found.notes, List.getLast?_append_of_ne_nil _ (List.cons_ne_nil _ _)] at last
      exact List.mem_of_getLast? last
  | mistake before input ih =>
    refine ⟨List.isChain_append.mpr ⟨ih.1, List.isChain_singleton _, ?_⟩, ?_⟩
    · intro n last next first chosen
      exact absurd chosen (ih.2 rfl n last)
    · simp [Found.note]
  | choose before label ih =>
    refine ⟨List.isChain_append.mpr ⟨ih.1, List.isChain_singleton _, ?_⟩, by simp⟩
    intro n last next first chosen
    exact absurd chosen (ih.2 rfl n last)

end Tale

theorem Session.Visited.eventAddress_eq {items : Finset Text} {s : Session} {visits : List Found}
    (visited : s.Visited items visits) : s.eventAddress = addressAfter visits := by
  rw [Session.eventAddress, visited.current, addressAfter]
  cases visits with
  | nil => rfl
  | cons here before => rfl

/-- The call with which a recorder is asked to keep a note. -/
def Note.call (id : Text) (n : Note) : Transcript.Call :=
  .append id n.moment.text n.address n.detail

/-- What is told last of a session that a failure ends. -/
def Session.lastNote (s : Session) (f : Failure) : Note :=
  ⟨.ending, s.eventAddress, f.text⟩

/-- A session of which notes are told, and then perhaps that it is closed. -/
theorem calls_notes {ρ : Type} (recorder : Transcript.Recorder ρ) (id : Text) (keeper : ρ)
    (entry : Text) (notes : List Note) (closing : List Code) :
    recorder.calls id keeper (.began entry :: (notes.map Note.event ++ closing.map Event.closed)) =
        .start id entry true ::
          (notes.map (Note.call id) ++ closing.map fun code => .close id code.text) ∨
      recorder.calls id keeper
          (.began entry :: (notes.map Note.event ++ closing.map Event.closed)) =
        [.start id entry false] := by
  have later : ∀ e ∈ notes.map Note.event ++ closing.map Event.closed, e.begins = false := by
    intro e member
    rcases List.mem_append.mp member with note | closed
    · obtain ⟨n, -, rfl⟩ := List.mem_map.mp note
      rfl
    · obtain ⟨code, -, rfl⟩ := List.mem_map.mp closed
      rfl
  have calls : (notes.map Note.event ++ closing.map Event.closed).filterMap
      (Transcript.Call.ofEvent? id) =
      notes.map (Note.call id) ++ closing.map fun code => .close id code.text := by
    rw [List.filterMap_append, List.filterMap_map, List.filterMap_map, ← List.filterMap_eq_map,
      ← List.filterMap_eq_map]
    rfl
  rw [Transcript.Recording.calls_began recorder id keeper later, calls]
  split
  · exact .inl rfl
  · exact .inr rfl

/-- What a recorder is asked for in a session after its start was kept: notes, and at the end also
    to close it. -/
structure Recorded (items : Finset Text) (id : Text) (s : Session) (visits : List Found)
    (told : List Note) (closing : List Transcript.Call) : Prop where
  started : ∃ more, told.map Note.moment ++ more ∈ Protocol.session.matches'
  ongoing : s.stage ≠ .ended → closing = [] ∧ ∀ n ∈ told, n.moment ≠ .ending
  ended : s.stage = .ended → ∃ f, s.ending = some f ∧ closing = [.close id f.code.text] ∧
    told.map Note.moment ∈ Protocol.session.matches' ∧
    ∃ n, told.getLast? = some n ∧ n.moment = .ending ∧ n.detail = f.text
  choices : told.IsChain Note.Precedes ∧ ∀ n ∈ told.getLast?, n.moment ≠ .choice
  addressed : Addressed [] told
  arrivals : told.filter Note.isArrival = arrivals items visits
  current : s.current = visits.head?
  held : s.inventory.folded = heldAfter items visits

namespace Tale

variable {items : Finset Text} {place : Whereabouts} {visits : List Found} {notes : List Note}
  {s : Session}

theorem recorded_ongoing (tale : Tale items .inside visits notes) (visited : s.Visited items visits)
    (ongoing : s.stage ≠ .ended) (id : Text) : Recorded items id s visits notes [] where
  started := ⟨_, tale.session_moments⟩
  ongoing _ := ⟨rfl, tale.moment_ne_ending⟩
  ended finished := absurd finished ongoing
  choices := ⟨tale.precedes.1, tale.precedes.2 rfl⟩
  addressed := tale.addressed.1
  arrivals := tale.filter_isArrival
  current := visited.current
  held := visited.held

theorem recorded_ended (tale : Tale items place visits notes) (visited : s.Visited items visits)
    (finished : s.stage = .ended) {f : Failure} (ending : s.ending = some f) (id : Text) :
    Recorded items id s visits (notes ++ [s.lastNote f]) [.close id f.code.text] where
  started := ⟨[], by simpa [Session.lastNote] using tale.session_moments⟩
  ongoing going := absurd finished going
  ended _ :=
    ⟨f, ending, rfl, by simpa [Session.lastNote] using tale.session_moments, s.lastNote f, by simp,
      rfl, rfl⟩
  choices := by
    refine ⟨List.isChain_append.mpr ⟨tale.precedes.1, List.isChain_singleton _, ?_⟩,
      by simp [Session.lastNote]⟩
    intro n last next first chosen
    obtain rfl : s.lastNote f = next := by simpa using first
    exact .inr rfl
  addressed := by
    rw [addressed_append, tale.addressed.2]
    exact ⟨tale.addressed.1, by simp [Addressed, Session.lastNote, visited.eventAddress_eq]⟩
  arrivals := by simpa [Note.isArrival, Session.lastNote] using tale.filter_isArrival
  current := visited.current
  held := visited.held

end Tale

/-- However a session is used and whatever fails, its recorder is asked for nothing, for a start
    that it cannot keep and nothing after it, or for a start and then for the notes of one session,
    which it is asked to close exactly if the session is over. -/
theorem recorder_calls_follow_protocol {σ ρ : Type} {id : Text} {maxRetries : Int}
    {items : List Text} {l : Loader} {w : σ} {p : Play σ}
    (leads : Play.Leads ⟨{ id, maxRetries, inventory := .ofItems items }, l, w, []⟩ p)
    (recorder : Transcript.Recorder ρ) (keeper : ρ) :
    let calls := recorder.calls id keeper p.events
    (calls = [] ∧ p.session.current = none) ∨
    (∃ entry, calls = [.start id entry false]) ∨
    ∃ entry told closing visits,
      calls = .start id entry true :: (told.map (Note.call id) ++ closing) ∧
      Recorded (items.map Text.fold).toFinset id p.session visits told closing := by
  intro calls
  have fresh : ({ id, maxRetries, inventory := .ofItems items } : Session).Visited
      (items.map Text.fold).toFinset [] :=
    ⟨rfl, Inventory.keyed_ofItems items, Inventory.folded_ofItems items⟩
  obtain ⟨visits, visited, account⟩ := Play.Leads.accounted rfl fresh leads
  have told : calls = recorder.calls id keeper p.view.story :=
    (Transcript.Recording.calls_told recorder id keeper).symm
  have session : p.view.session = p.session := rfl
  rw [session] at visited account
  cases stage : p.session.stage with
  | awaitingEntry =>
    rw [stage] at account
    obtain ⟨rfl, silent⟩ := account
    rw [silent] at told
    exact .inl ⟨told, visited.current⟩
  | awaitingChoice =>
    rw [stage] at account
    obtain ⟨entry, notes, story, tale⟩ := account
    rw [story] at told
    have made := calls_notes recorder id keeper entry notes []
    rw [List.map_nil, List.append_nil, ← told] at made
    rcases made with kept | refused
    · exact .inr (.inr ⟨entry, notes, [], visits, kept,
        tale.recorded_ongoing visited (by simp [stage]) id⟩)
    · exact .inr (.inl ⟨entry, refused⟩)
  | ended =>
    rw [stage] at account
    obtain ⟨f, ending, ⟨rfl, story⟩ | ⟨entry, notes, place, story, tale⟩⟩ := account
    · -- A session that was called off before it started tells only of its end.
      rw [story] at told
      refine .inl ⟨told.trans (Transcript.Recording.calls_eq_nil _ _ _ ?_), visited.current⟩
      simp [Session.farewell, Event.begins]
    · have split : p.view.story = .began entry ::
          ((notes ++ [p.session.lastNote f]).map Note.event ++ [f.code].map Event.closed) := by
        simp [story, Session.farewell, Session.lastNote, Note.event]
      rw [split] at told
      have made := calls_notes recorder id keeper entry (notes ++ [p.session.lastNote f]) [f.code]
      rw [← told] at made
      rcases made with kept | refused
      · exact .inr (.inr ⟨entry, _, _, visits, kept, tale.recorded_ended visited stage ending id⟩)
      · exact .inr (.inl ⟨entry, refused⟩)
  | presenting => simp [stage] at account
  | transitioning => simp [stage] at account

/-- The vault is entered, an input is turned down, the door is opened, and the recorder is asked for
    all of it although it can keep no entry. -/
theorem recorder_calls_follow_protocol_vault :
    let recorder : Transcript.Recorder Unit :=
      ⟨fun _ _ k => (none, k), fun _ _ _ _ k => (some [.said "full"], k), fun _ _ k => (none, k)⟩
    let start : Play Unit := ⟨{ id := "v", inventory := .ofItems [] }, { directory := "/" }, (), []⟩
    let final := start.makeAll Story.vault.host [.start ⟨"a", "m", "s"⟩, .choose "7", .choose "1"]
    start.Leads final ∧ final.session.stage = .ended ∧
      ∃ entry told closing visits,
        recorder.calls "v" () final.events =
          .start "v" entry true :: (told.map (Note.call "v") ++ closing) ∧
        Recorded {} "v" final.session visits told closing := by
  intro recorder start final
  have leads : start.Leads final :=
    ((Relation.ReflTransGen.single (.perform Story.vault.host start (.move _))).tail
      (.perform Story.vault.host _ (.move _))).tail (.perform Story.vault.host _ (.move _))
  have ended : final.session.stage = .ended := by decide +kernel
  have many : 1 < (recorder.calls "v" () final.events).length := by decide +kernel
  refine ⟨leads, ended, ?_⟩
  rcases recorder_calls_follow_protocol leads recorder () with
    ⟨none, -⟩ | ⟨entry, refused⟩ | kept
  · simp [none] at many
  · simp [refused] at many
  · exact kept

end Gamebook
