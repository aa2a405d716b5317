import Mathlib.Data.List.DropRight
import Gamebook.LineReader

/-! # No line is lost, and none is told twice

Lines are read by calls, one after the other. A call starts a read of its own unless one is still in
progress. A read goes on when the call that started it has given up, and a later call gets what the
read comes to. Bytes arrive, reads end and calls are cancelled at any time.

Whatever the order, the calls that do not give up are told the lines of the input one by one, and
then that it has ended. So a call that gives up takes nothing away, and the calls are told the same
as if each of them had read its line by itself.
-/

namespace Gamebook

namespace LineReader

/-! ## The lines of an input -/

/-- What stands between the line ends, without the bytes that end lines. What stands after the last line
    end counts unless it is empty. -/
def lines (bytes : Text) : List Text :=
  let parts := bytes.splitOn lineEnd
  (if parts.getLast? = some [] then parts.dropLast else parts).map
    (List.rdropWhile fun b => b = 0x0D || b = 0x0A)

theorem lines_nil : lines [] = [] :=
  rfl

theorem chop_eq (line : Text) : chop line = line.rdropWhile fun b => b = 0x0D || b = 0x0A := by
  simp only [chop, List.rdropWhile, Bool.or_comm]

theorem lines_last {bytes : Text} (some : bytes ≠ []) (unended : lineEnd ∉ bytes) :
    lines bytes = [chop bytes] := by
  simp [lines, List.splitOn_eq_singleton unended, some, chop_eq]

theorem lines_append (line rest : Text) (unended : lineEnd ∉ line) :
    lines (line ++ lineEnd :: rest) = chop (line ++ [lineEnd]) :: lines rest := by
  have trimmed : chop (line ++ [lineEnd]) = line.rdropWhile fun b => b = 0x0D || b = 0x0A := by
    rw [chop_eq, List.rdropWhile_concat_pos _ _ _ (by decide)]
  rw [lines, List.splitOn_append_cons_self, List.splitOn_eq_singleton unended, trimmed, lines]
  obtain ⟨part, parts, are⟩ := List.exists_cons_of_ne_nil (List.splitOn_ne_nil lineEnd rest)
  simp only [are, List.singleton_append, List.getLast?_cons_cons, List.dropLast_cons_cons]
  split
  · rw [List.map_cons]
  · rw [List.map_cons]

theorem cutLine_eq_none_iff {bytes : Text} : cutLine bytes = none ↔ lineEnd ∉ bytes := by
  induction bytes with
  | nil => simp [cutLine]
  | cons b rest ih =>
    by_cases ended : b = lineEnd
    · simp [cutLine, ended]
    · simp [cutLine, ended, ih, Ne.symm ended]

theorem cutLine_append (line rest : Text) (unended : lineEnd ∉ line) :
    cutLine (line ++ lineEnd :: rest) = some (line ++ [lineEnd], rest) := by
  induction line with
  | nil => simp [cutLine]
  | cons b line ih =>
    obtain ⟨other, later⟩ := not_or.mp (mt List.mem_cons.mpr unended)
    simp [cutLine, Ne.symm other, ih later]

/-! ## One line after the other -/

/-- What a read comes to on an input, and what it leaves of it. -/
def next (bytes : Text) : Fetched × Text :=
  match cutLine bytes with
  | some (line, rest) => (⟨line, none⟩, rest)
  | none => (⟨bytes, if bytes = [] then some [.endOfInput] else none⟩, [])

/-- What the read after `n` others is told of some lines. -/
def nth (lines : List Text) (n : Nat) : Text × Option Failure :=
  match lines[n]? with
  | some line => (line, none)
  | none => ([], some [.endOfInput])

theorem next_line (line rest : Text) (unended : lineEnd ∉ line) :
    next (line ++ lineEnd :: rest) = (⟨line ++ [lineEnd], none⟩, rest) := by
  rw [next, cutLine_append line rest unended]

theorem next_last {bytes : Text} (unended : lineEnd ∉ bytes) :
    next bytes = (⟨bytes, if bytes = [] then some [.endOfInput] else none⟩, []) := by
  rw [next, cutLine_eq_none_iff.mpr unended]

theorem next_found_append (bytes : Text) : (next bytes).1.found ++ (next bytes).2 = bytes := by
  by_cases ended : lineEnd ∈ bytes
  · obtain ⟨line, rest, rfl, unended⟩ := List.eq_append_cons_of_mem ended
    simp [next_line line rest unended]
  · simp [next_last ended]

/-- What comes after the end of a line does not matter to it. -/
theorem next_append {bytes : Text} (ended : lineEnd ∈ bytes) (more : Text) :
    next (bytes ++ more) = ((next bytes).1, (next bytes).2 ++ more) := by
  obtain ⟨line, rest, rfl, unended⟩ := List.eq_append_cons_of_mem ended
  rw [List.append_assoc, List.cons_append, next_line _ _ unended, next_line _ _ unended]

/-- What is read first of the next line is part of it. -/
theorem next_behind {before : Text} (unended : lineEnd ∉ before) (bytes : Text) :
    (next (before ++ bytes)).1.found = before ++ (next bytes).1.found ∧
      (next (before ++ bytes)).2 = (next bytes).2 := by
  by_cases ended : lineEnd ∈ bytes
  · obtain ⟨line, rest, rfl, within⟩ := List.eq_append_cons_of_mem ended
    rw [← List.append_assoc, next_line _ _ (by simp [unended, within]), next_line _ _ within]
    exact ⟨List.append_assoc .., rfl⟩
  · rw [next_last ended, next_last (by simp [unended, ended])]
    exact ⟨rfl, rfl⟩

/-- The first line of an input is what a read comes to, and the others are those of what it leaves. -/
theorem lines_next {bytes : Text} (some : bytes ≠ []) :
    lines bytes = chop (next bytes).1.found :: lines (next bytes).2 ∧
      (next bytes).1.failure = none := by
  by_cases ended : lineEnd ∈ bytes
  · obtain ⟨line, rest, rfl, unended⟩ := List.eq_append_cons_of_mem ended
    rw [lines_append line rest unended, next_line line rest unended]
    exact ⟨rfl, rfl⟩
  · rw [lines_last some ended, next_last ended, if_neg some]
    exact ⟨rfl, rfl⟩

theorem nth_zero (bytes : Text) :
    nth (lines bytes) 0 = (chop (next bytes).1.found, (next bytes).1.failure) := by
  by_cases none : bytes = []
  · subst none
    rfl
  · obtain ⟨first, ok⟩ := lines_next none
    rw [first, ok, nth, List.getElem?_cons_zero]

/-- The read after one other is told what the first read of the remaining input is told. -/
theorem nth_succ (bytes : Text) (n : Nat) :
    nth (lines bytes) (n + 1) = nth (lines (next bytes).2) n := by
  by_cases none : bytes = []
  · subst none
    rfl
  · rw [(lines_next none).1, nth, nth, List.getElem?_cons_succ]

/-! ## Taking bytes -/

theorem fill_eq (found buffer waiting : Text) :
    (fill found buffer waiting).1 = found ++ (next (buffer ++ waiting)).1.found ∧
      (fill found buffer waiting).2.1 = decide (lineEnd ∈ buffer ++ waiting) ∧
      (fill found buffer waiting).2.2.1 ++ (fill found buffer waiting).2.2.2 =
        (next (buffer ++ waiting)).2 := by
  fun_induction fill found buffer waiting with
  | case1 found buffer waiting line rest cut =>
    have ended : lineEnd ∈ buffer := by
      by_contra unended
      rw [cutLine_eq_none_iff.mpr unended] at cut
      cases cut
    rw [next_append ended]
    simp [next, cut, ended]
  | case2 found buffer waiting none full ih =>
    have unended := cutLine_eq_none_iff.mp none
    obtain ⟨same, rest⟩ := next_behind unended waiting
    rw [List.nil_append] at ih
    simpa [same, rest, unended] using ih
  | case3 found buffer none room =>
    have unended := cutLine_eq_none_iff.mp none
    simp [next_last unended, unended]
  | case4 found buffer none room b more ih =>
    rwa [List.append_assoc, List.take_append_drop] at ih

/-- Taking bytes comes to the next line of all that is there. -/
theorem fetch_eq {feed : Feed} (ending : feed.ending = [.endOfInput]) (buffer : Text) :
    (fetch buffer feed).1 = (next (buffer ++ feed.waiting)).1 ∧
      (fetch buffer feed).2.1 ++ (fetch buffer feed).2.2.waiting = (next (buffer ++ feed.waiting)).2 ∧
      (fetch buffer feed).2.2.ending = [.endOfInput] := by
  obtain ⟨found, complete, rest⟩ := fill_eq [] buffer feed.waiting
  refine ⟨?_, rest, ending⟩
  simp only [fetch, found, complete, ending, List.nil_append]
  by_cases ended : lineEnd ∈ buffer ++ feed.waiting
  · obtain ⟨line, rest, whole, unended⟩ := List.eq_append_cons_of_mem ended
    rw [whole] at ended ⊢
    simp [next_line line rest unended]
  · simp only [next_last ended]
    by_cases none : buffer ++ feed.waiting = []
    · simp [none]
    · simp [none]

/-! ## Reads in progress -/

/-- The read that the calls share. -/
inductive Pending where
  | none
  | underway
  /-- It has ended, but no call has been told. -/
  | ended (got : Fetched)
  deriving DecidableEq, Repr, Inhabited

/-- The read after a call has begun. -/
def Pending.begun : Pending → Pending
  | .none => .underway
  | p => p

/-- The bytes that a read has and no call has been told. -/
def Pending.held : Pending → Text
  | .ended got => got.found
  | _ => []

/-- What a call was told. -/
structure Told where
  /-- Why the call was cancelled, if it was. -/
  cancelled : Option Failure
  /-- Whether the call gave up. -/
  gaveUp : Bool
  result : ReadLine
  deriving DecidableEq, Repr, Inhabited

/-- A reader, its input, and the call in progress. -/
structure Flow where
  reader : LineReader
  /-- The bytes that have arrived. -/
  feed : Feed := {}
  /-- The bytes that are still to come. -/
  coming : Text
  pending : Pending := .none
  /-- The call in progress, with why it was cancelled if it was. -/
  call : Option (Option Failure) := none
  deriving DecidableEq, Repr, Inhabited

namespace Flow

/-- Nothing has been read yet. -/
def initial (prompt input : Text) : Flow :=
  { reader := { prompt }, coming := input }

/-- What can happen next, and what the call in progress is told by it. -/
inductive Step : Flow → Option Told → Flow → Prop where
  /-- A call begins, live or cancelled. -/
  | call (f : Flow) (cancelled : Option Failure) (idle : f.call = none) :
    Step f none { f with call := some cancelled, pending := f.pending.begun }
  | cancel (f : Flow) (cause : Failure) (live : f.call = some none) :
    Step f none { f with call := some (some cause) }
  | arrive (f : Flow) (bytes more : Text) (comes : f.coming = bytes ++ more) :
    Step f none
      { f with feed := { f.feed with waiting := f.feed.waiting ++ bytes }, coming := more }
  /-- A read ends when a line is complete, or when no more bytes come. -/
  | fetch (f : Flow) (reads : f.pending = .underway)
      (ready : lineEnd ∈ f.reader.buffer ++ f.feed.waiting ∨ f.coming = []) :
    Step f none
      { f with
        reader := { f.reader with buffer := (LineReader.fetch f.reader.buffer f.feed).2.1 }
        feed := (LineReader.fetch f.reader.buffer f.feed).2.2
        pending := .ended (LineReader.fetch f.reader.buffer f.feed).1 }
  | tell (f : Flow) (cancelled : Option Failure) (got : Fetched) (waits : f.call = some cancelled)
      (ended : f.pending = .ended got) :
    Step f (some ⟨cancelled, false, ⟨chop got.found, got.failure, f.reader.prompt⟩⟩)
      { f with call := none, pending := .none }
  /-- A call that was cancelled gives up. The read goes on without it. -/
  | giveUp (f : Flow) (cause : Failure) (stopped : f.call = some (some cause)) :
    Step f (some ⟨some cause, true, ⟨[], some cause, f.reader.prompt⟩⟩) { f with call := none }

/-- What the calls are told, one after the other. -/
inductive Run : Flow → List Told → Flow → Prop where
  | refl (f : Flow) : Run f [] f
  | step {f g h : Flow} {told? : Option Told} {told : List Told} (step : Step f told? g)
      (run : Run g told h) : Run f (told?.toList ++ told) h

/-- The bytes of which no call has been told. -/
def owed (f : Flow) : Text :=
  f.pending.held ++ (f.reader.buffer ++ f.feed.waiting ++ f.coming)

/-- What holds at any time. A read that has ended came to the next line of the bytes that are owed, and
    a call in progress has a read to wait for. -/
structure Sound (prompt : Text) (f : Flow) : Prop where
  prompt_eq : f.reader.prompt = prompt
  ending : f.feed.ending = [.endOfInput]
  ended : ∀ got, f.pending = .ended got →
    next f.owed = (got, f.reader.buffer ++ f.feed.waiting ++ f.coming)
  reads : f.call ≠ none → f.pending ≠ .none

theorem sound_initial (prompt input : Text) : (initial prompt input).Sound prompt := by
  refine ⟨rfl, rfl, fun got ended => ?_, fun calls => absurd rfl calls⟩
  cases ended

theorem owed_initial (prompt input : Text) : (initial prompt input).owed = input :=
  rfl

/-- What the calls are told of some bytes, and the bytes of which they are not told. -/
inductive Tells (prompt : Text) : Text → List Told → Text → Prop where
  | nil (bytes : Text) : Tells prompt bytes [] bytes
  | line (bytes : Text) (cancelled : Option Failure) {told : List Told} {rest : Text}
      (later : Tells prompt (next bytes).2 told rest) :
    Tells prompt bytes
      (⟨cancelled, false, ⟨chop (next bytes).1.found, (next bytes).1.failure, prompt⟩⟩ :: told) rest
  | gaveUp (bytes : Text) (cause : Failure) {told : List Told} {rest : Text}
      (later : Tells prompt bytes told rest) :
    Tells prompt bytes (⟨some cause, true, ⟨[], some cause, prompt⟩⟩ :: told) rest

variable {prompt : Text} {f g : Flow}

theorem Sound.fetch (sound : f.Sound prompt) (reads : f.pending = .underway)
    (ready : lineEnd ∈ f.reader.buffer ++ f.feed.waiting ∨ f.coming = []) :
    f.owed = (LineReader.fetch f.reader.buffer f.feed).1.found ++
        ((LineReader.fetch f.reader.buffer f.feed).2.1 ++
          (LineReader.fetch f.reader.buffer f.feed).2.2.waiting ++ f.coming) ∧
      next f.owed = ((LineReader.fetch f.reader.buffer f.feed).1,
        (LineReader.fetch f.reader.buffer f.feed).2.1 ++
          (LineReader.fetch f.reader.buffer f.feed).2.2.waiting ++ f.coming) := by
  obtain ⟨got, rest, -⟩ := fetch_eq sound.ending f.reader.buffer
  have owed : f.owed = f.reader.buffer ++ f.feed.waiting ++ f.coming := by
    simp [Flow.owed, reads, Pending.held]
  rw [owed, got, rest]
  constructor
  · rw [← List.append_assoc, next_found_append]
  · rcases ready with ended | none
    · exact next_append ended f.coming
    · simp [none]

/-- One step tells the call in progress of the next line that is owed, or of nothing. -/
theorem Sound.step (sound : f.Sound prompt) {told? : Option Told} (step : Step f told? g) :
    g.Sound prompt ∧ ∀ {told rest}, Tells prompt g.owed told rest →
      Tells prompt f.owed (told?.toList ++ told) rest := by
  cases step with
  | call cancelled idle =>
    have same : { f with call := some cancelled, pending := f.pending.begun }.owed = f.owed := by
      simp only [owed]
      cases f.pending <;> rfl
    refine ⟨⟨sound.prompt_eq, sound.ending, fun got ended => ?_, fun _ => ?_⟩, fun later => ?_⟩
    · rw [same]
      refine sound.ended got ?_
      cases before : f.pending <;> simp_all [Pending.begun]
    · dsimp only
      cases f.pending <;> simp [Pending.begun]
    · exact same ▸ later
  | cancel cause live =>
    refine ⟨⟨sound.prompt_eq, sound.ending, sound.ended, fun _ => sound.reads (by simp [live])⟩, ?_⟩
    exact fun later => later
  | arrive bytes more comes =>
    have left : f.reader.buffer ++ (f.feed.waiting ++ bytes) ++ more =
        f.reader.buffer ++ f.feed.waiting ++ f.coming := by simp [comes]
    refine ⟨⟨sound.prompt_eq, sound.ending, fun got ended => ?_, sound.reads⟩, fun later => ?_⟩
    · simp only [owed, left]
      exact sound.ended got ended
    · simp only [owed, left] at later
      exact later
  | fetch reads ready =>
    obtain ⟨owed_eq, came⟩ := sound.fetch reads ready
    have same : owed { f with
        reader := { f.reader with buffer := (LineReader.fetch f.reader.buffer f.feed).2.1 }
        feed := (LineReader.fetch f.reader.buffer f.feed).2.2
        pending := .ended (LineReader.fetch f.reader.buffer f.feed).1 } = f.owed := owed_eq.symm
    refine ⟨⟨sound.prompt_eq, (fetch_eq sound.ending _).2.2, fun got ended => ?_, ?_⟩, ?_⟩
    · cases ended
      rw [same]
      exact came
    · simp
    · rw [same]
      exact fun later => later
  | tell cancelled got waits ended =>
    have came := sound.ended got ended
    refine ⟨⟨sound.prompt_eq, sound.ending, fun other ended => ?_, fun calls => absurd rfl calls⟩, ?_⟩
    · cases ended
    · intro told rest later
      have after : Tells prompt (next f.owed).2 told rest := by
        rw [came]
        exact later
      have line := Tells.line f.owed cancelled after
      rw [came] at line
      rw [sound.prompt_eq]
      exact line
  | giveUp cause stopped =>
    refine ⟨⟨sound.prompt_eq, sound.ending, sound.ended, fun calls => absurd rfl calls⟩, ?_⟩
    intro told rest later
    rw [sound.prompt_eq]
    exact .gaveUp f.owed cause later

/-- However calls, reads and bytes come, the calls are told of the bytes that are owed in order. -/
theorem Sound.run (sound : f.Sound prompt) {told : List Told} (run : Run f told g) :
    g.Sound prompt ∧ Tells prompt f.owed told g.owed := by
  induction run with
  | refl f => exact ⟨sound, .nil f.owed⟩
  | step step run ih =>
    obtain ⟨later, tells⟩ := sound.step step
    obtain ⟨final, rest⟩ := ih later
    exact ⟨final, tells rest⟩

/-- A call in progress is told of the next line as soon as the read ends, and nothing keeps it from
    ending. -/
theorem Sound.progress (sound : f.Sound prompt) {cancelled : Option Failure}
    (calls : f.call = some cancelled) : ∃ t g, t.gaveUp = false ∧ Run f [t] g := by
  cases reads : f.pending with
  | none => exact absurd reads (sound.reads (by simp [calls]))
  | ended got => exact ⟨_, _, rfl, .step (.tell f cancelled got calls reads) (.refl _)⟩
  | underway =>
    have run := Run.step (.arrive f f.coming [] (by simp)) <|
      .step (.fetch _ reads (.inr rfl)) <| .step (.tell _ cancelled _ calls rfl) (.refl _)
    exact ⟨_, _, rfl, run⟩

/-! ## What the calls are told -/

/-- What the calls that did not give up were told. -/
def results (told : List Told) : List (Text × Option Failure) :=
  (told.filter fun t => !t.gaveUp).map fun t => (t.result.line, t.result.failure)

theorem Tells.results_eq {bytes rest : Text} {told : List Told} (tells : Tells prompt bytes told rest) :
    results told = (List.range (results told).length).map (nth (lines bytes)) := by
  induction tells with
  | nil => rfl
  | @line bytes cancelled told rest later ih =>
    have next_nth : nth (lines bytes) ∘ Nat.succ = nth (lines (next bytes).2) :=
      funext (nth_succ bytes)
    change _ :: results told = (List.range ((results told).length + 1)).map (nth (lines bytes))
    rw [List.range_succ_eq_map, List.map_cons, List.map_map, next_nth, ← ih, nth_zero]
  | gaveUp bytes cause later ih => exact ih

/-- The lines that the calls were told without a failure. -/
def delivered (told : List Told) : List Text :=
  (told.filter fun t => t.result.failure = none).map fun t => t.result.line

theorem Tells.delivered_eq {bytes rest : Text} {told : List Told} (tells : Tells prompt bytes told rest) :
    delivered told = (lines bytes).take (results told).length := by
  induction tells with
  | nil => rfl
  | @line bytes cancelled told rest later ih =>
    by_cases empty : bytes = []
    · subst empty
      have nothing : delivered told = [] := ih.trans List.take_nil
      rw [lines_nil, List.take_nil]
      exact nothing
    · obtain ⟨first, ok⟩ := lines_next empty
      have told : delivered (⟨cancelled, false, ⟨chop (next bytes).1.found, none, prompt⟩⟩ :: told) =
        chop (next bytes).1.found :: delivered told := rfl
      rw [first, ok, told, ih]
      rfl
  | gaveUp bytes cause later ih => exact ih

theorem Tells.of_gaveUp {bytes rest : Text} {told : List Told} (tells : Tells prompt bytes told rest) :
    ∀ t ∈ told, t.gaveUp = true → ∃ cause, t.cancelled = some cause ∧
      t.result = ⟨[], some cause, prompt⟩ := by
  induction tells with
  | nil => simp
  | line bytes cancelled later ih => simpa using ih
  | gaveUp bytes cause later ih => simpa using ih

end Flow

/-- What reads give one after the other, each called off or not. -/
def reads : List (Option Failure) → LineReader → Feed → List ReadLine
  | [], _, _ => []
  | halted :: more, r, feed =>
    (r.read halted feed).1 :: reads more (r.read halted feed).2.1 (r.read halted feed).2.2

/-- The calls are told what they would read by themselves. -/
theorem Flow.Tells.reads_eq {prompt bytes rest : Text} {told : List Told}
    (tells : Tells prompt bytes told rest) {r : LineReader} {feed : Feed} (prompts : r.prompt = prompt)
    (ending : feed.ending = [.endOfInput]) (all : r.buffer ++ feed.waiting = bytes) :
    told.map Told.result = reads (told.map fun t => if t.gaveUp then t.cancelled else none) r feed := by
  induction tells generalizing r feed with
  | nil => rfl
  | line bytes cancelled later ih =>
    obtain ⟨got, left, still⟩ := fetch_eq ending r.buffer
    rw [all] at got left
    have line : (r.read none feed).1 =
        ⟨chop (next bytes).1.found, (next bytes).1.failure, prompt⟩ := by
      simp only [read, got, prompts]
    exact congrArg₂ List.cons line.symm (ih (r := (r.read none feed).2.1) prompts still left)
  | gaveUp bytes cause later ih =>
    have nothing : (r.read (some cause) feed).1 = ⟨[], some cause, prompt⟩ := by
      simp only [read, prompts]
    exact congrArg₂ List.cons nothing.symm (ih prompts ending all)

end LineReader

open LineReader

/-- Calls for lines are made one after the other, live or cancelled, and cancelled while they wait. The
    calls that do not give up are told the lines of the input, each once and in order, and that the
    input has ended from then on. Only a call that was cancelled gives up, with the reason for that and
    nothing else, and the calls are told the same as if it had not read at all. A call that waits can
    always be told. -/
theorem every_line_is_told_once (prompt input : Text) (told : List Told) (f : Flow)
    (run : Flow.Run (.initial prompt input) told f) :
    Flow.delivered told = (lines input).take (Flow.results told).length ∧
    Flow.results told = (List.range (Flow.results told).length).map (nth (lines input)) ∧
    (∀ t ∈ told, t.gaveUp = true → ∃ cause, t.cancelled = some cause ∧
      t.result = ⟨[], some cause, prompt⟩) ∧
    told.map Told.result =
      reads (told.map fun t => if t.gaveUp then t.cancelled else none) { prompt } { waiting := input } ∧
    ∀ cancelled, f.call = some cancelled → ∃ t g, t.gaveUp = false ∧ Flow.Run f [t] g := by
  obtain ⟨sound, tells⟩ := (Flow.sound_initial prompt input).run run
  rw [Flow.owed_initial] at tells
  exact ⟨tells.delivered_eq, tells.results_eq, tells.of_gaveUp, tells.reads_eq rfl rfl rfl,
    fun _ => sound.progress⟩

/-- The first call is cancelled and gives up before its line has arrived. The second is told that line
    although it was cancelled before it began. -/
theorem every_line_is_told_once_late :
    ∃ told f, Flow.Run (.initial "> " "go\r\nnorth") told f ∧
      told.map Told.gaveUp = [true, false, false, false] ∧
      Flow.results told =
        ([("go", none), ("north", none), ([], some [.endOfInput])] : List (Text × Option Failure)) := by
  have run := Flow.Run.step (.call (.initial "> " "go\r\nnorth") none rfl) <|
    .step (.cancel _ [.calledOff] rfl) <| .step (.giveUp _ [.calledOff] rfl) <|
    .step (.arrive _ "go\r" "\nnorth" rfl) <| .step (.arrive _ "\nnorth" [] rfl) <|
    .step (.fetch _ rfl (.inl (by decide))) <|
    .step (.call _ (some [.outOfTime]) rfl) <| .step (.tell _ _ _ rfl rfl) <|
    .step (.call _ none rfl) <| .step (.fetch _ rfl (.inr rfl)) <| .step (.tell _ _ _ rfl rfl) <|
    .step (.call _ none rfl) <| .step (.fetch _ rfl (.inr rfl)) <| .step (.tell _ _ _ rfl rfl) (.refl _)
  refine ⟨_, _, run, rfl, ?_⟩
  rw [(every_line_is_told_once _ _ _ _ run).2.1]
  decide +kernel

end Gamebook
