import Gamebook.Proofs.Source.Runewise
import Mathlib.Data.List.Basic

/-! # How tokens lie in a text

Reading a text token by token divides it up without loss: trivia, a token, trivia, a token, and so
on up to the end or to where reading fails. Every token lies where its position says, and reading
goes on just past it.
-/

namespace Gamebook

/-- Blanks, and comments with the ends of their lines. -/
inductive Trivia : List Rune → Prop where
  | nil : Trivia []
  | blank {r : Rune} {rs : List Rune} (blank : r.isBlank) (rest : Trivia rs) : Trivia (r :: rs)
  | comment {body rs : List Rune} (line : .char '\n' ∉ body) (rest : Trivia rs) :
    Trivia (.char '#' :: body ++ .char '\n' :: rs)

/-- Trivia at the end of a text, where the line of the last comment need not end. -/
inductive Trailing : List Rune → Prop where
  | trivia {rs : List Rune} (trivia : Trivia rs) : Trailing rs
  | comment {front body : List Rune} (trivia : Trivia front) (line : .char '\n' ∉ body) :
    Trailing (front ++ .char '#' :: body)

/-- That trivia in front of other runes cannot be taken any further. -/
inductive Skipped : (gap after : List Rune) → Prop where
  | ended {gap : List Rune} (trailing : Trailing gap) : Skipped gap []
  | front {gap : List Rune} {r : Rune} {rest : List Rune} (trivia : Trivia gap)
      (noBlank : ¬r.isBlank) (noComment : r ≠ .char '#') : Skipped gap (r :: rest)

namespace Skipped

variable {gap after : List Rune}

theorem trivia (skipped : Skipped gap after) (more : after ≠ []) : Trivia gap := by
  cases skipped with
  | ended trailing => exact absurd rfl more
  | front trivia noBlank noComment => exact trivia

theorem blank {r : Rune} (blank : r.isBlank) (skipped : Skipped gap after) :
    Skipped (r :: gap) after := by
  cases skipped with
  | front trivia noBlank noComment => exact .front (.blank blank trivia) noBlank noComment
  | ended trailing =>
    cases trailing with
    | trivia trivia => exact .ended (.trivia (.blank blank trivia))
    | comment trivia line => exact .ended (.comment (.blank blank trivia) line)

theorem comment {body : List Rune} (line : .char '\n' ∉ body) (skipped : Skipped gap after) :
    Skipped (.char '#' :: body ++ .char '\n' :: gap) after := by
  cases skipped with
  | front trivia noBlank noComment => exact .front (.comment line trivia) noBlank noComment
  | ended trailing =>
    cases trailing with
    | trivia trivia => exact .ended (.trivia (.comment line trivia))
    | @comment front body' trivia line' =>
      have closed := Trailing.comment (Trivia.comment line trivia) line'
      rw [List.append_assoc, List.cons_append] at closed
      exact .ended closed

end Skipped

namespace Pos

theorem afterAll_past (before rs : List Rune) :
    (past before).afterAll rs = past (before ++ rs) := by
  rw [← afterAll_start, ← afterAll_start]
  exact List.foldl_append.symm

end Pos

namespace Source

/-- The comment that has been read so far while trivia is skipped. -/
def Opened : (inComment : Bool) → List Rune → Prop
  | false, front => front = []
  | true, front => ∃ body, front = .char '#' :: body ∧ .char '\n' ∉ body

theorem skipTrivia_skipped (inComment : Bool) (p : Pos) (rs front : List Rune)
    (opened : Opened inComment front) :
    ∃ gap, rs = gap ++ (skipTrivia inComment p rs).2 ∧
      (skipTrivia inComment p rs).1 = p.afterAll gap ∧
      Skipped (front ++ gap) (skipTrivia inComment p rs).2 := by
  -- In a comment, the part of it that has been read belongs to what is skipped.
  induction rs generalizing inComment p front with
  | nil =>
    refine ⟨[], rfl, by cases inComment <;> rfl, ?_⟩
    rw [List.append_nil]
    cases inComment with
    | false =>
      subst opened
      exact .ended (.trivia .nil)
    | true =>
      obtain ⟨body, rfl, line⟩ := opened
      exact .ended (.comment .nil line)
  | cons r rest ih =>
    cases inComment with
    | true =>
      obtain ⟨body, rfl, line⟩ := opened
      by_cases feed : r = .char '\n'
      · subst feed
        obtain ⟨gap, whole, pos, skipped⟩ := ih false (p.after (.char '\n')) [] rfl
        exact ⟨.char '\n' :: gap, congrArg _ whole, pos, skipped.comment line⟩
      · have longer : Opened true (.char '#' :: body ++ [r]) := by
          refine ⟨body ++ [r], rfl, ?_⟩
          simpa [line] using Ne.symm feed
        obtain ⟨gap, whole, pos, skipped⟩ := ih true (p.after r) _ longer
        simp only [skipTrivia, ne_eq, feed, not_false_eq_true, decide_true]
        rw [List.append_assoc] at skipped
        exact ⟨r :: gap, congrArg _ whole, pos, skipped⟩
    | false =>
      subst opened
      unfold skipTrivia
      split
      · next blank =>
        obtain ⟨gap, whole, pos, skipped⟩ := ih false (p.after r) [] rfl
        exact ⟨r :: gap, congrArg _ whole, pos, skipped.blank blank⟩
      · next noBlank =>
        split
        · next comment =>
          obtain ⟨gap, whole, pos, skipped⟩ :=
            ih true (p.after r) [.char '#'] ⟨[], rfl, List.not_mem_nil⟩
          rw [← comment] at skipped
          exact ⟨r :: gap, congrArg _ whole, pos, skipped⟩
        · next noComment => exact ⟨[], rfl, rfl, .front .nil noBlank noComment⟩

theorem trimmed_skipped (s : Source) :
    ∃ gap, s.rest = gap ++ s.trimmed.rest ∧ s.trimmed.pos = s.pos.afterAll gap ∧
      Skipped gap s.trimmed.rest :=
  skipTrivia_skipped false s.pos s.rest [] rfl

theorem skipTrivia_hash (p : Pos) (rest : List Rune) :
    skipTrivia false p (.char '#' :: rest) = skipTrivia true (p.after (.char '#')) rest :=
  rfl

theorem skipTrivia_comment {body : List Rune} (line : .char '\n' ∉ body) (p : Pos)
    (rest : List Rune) :
    skipTrivia true p (body ++ rest) = skipTrivia true (p.afterAll body) rest := by
  induction body generalizing p with
  | nil => rfl
  | cons r body ih =>
    obtain ⟨here, later⟩ := not_or.mp (mt List.mem_cons.mpr line)
    simp only [List.cons_append, skipTrivia, ne_eq, Ne.symm here, not_false_eq_true, decide_true]
    exact ih later (p.after r)

/-- Trivia is skipped wherever it stands. -/
theorem skipTrivia_append {gap : List Rune} (trivia : Trivia gap) (p : Pos) (rest : List Rune) :
    skipTrivia false p (gap ++ rest) = skipTrivia false (p.afterAll gap) rest := by
  induction trivia generalizing p with
  | nil => rfl
  | @blank r rs blank trivia ih =>
    simp only [List.cons_append, skipTrivia, blank, if_true]
    exact ih (p.after r)
  | @comment body rs line trivia ih =>
    calc skipTrivia false p (.char '#' :: body ++ .char '\n' :: rs ++ rest)
      _ = skipTrivia true (p.after (.char '#')) (body ++ .char '\n' :: (rs ++ rest)) := by
        rw [List.append_assoc]
        exact skipTrivia_hash ..
      _ = skipTrivia false (((p.after (.char '#')).afterAll body).after (.char '\n'))
          (rs ++ rest) := skipTrivia_comment line _ _
      _ = skipTrivia false (p.afterAll (.char '#' :: body ++ .char '\n' :: rs)) rest := by
        rw [ih]
        simp [Pos.afterAll]

theorem skipTrivia_trailing {rs : List Rune} (trailing : Trailing rs) (p : Pos) :
    (skipTrivia false p rs).2 = [] := by
  cases trailing with
  | trivia trivia => rw [← List.append_nil rs, skipTrivia_append trivia, skipTrivia]
  | @comment front body trivia line =>
    rw [skipTrivia_append trivia, skipTrivia_hash, ← List.append_nil body,
      skipTrivia_comment line, skipTrivia]

/-! ## Calls in turn -/

/-- What a call gives after so many others. -/
def call (s : Source) : Nat → Scan
  | 0 => s.next
  | n + 1 => s.next.source.call n

theorem call_of_fixed {s : Source} (fixed : s.next.source = s) (n : Nat) : s.call n = s.next := by
  induction n with
  | zero => rfl
  | succ n ih => rw [call, fixed, ih]

/-- A failure is given again by every later call. -/
theorem call_of_failed {s : Source} {failure : Failure} (failed : s.failed = some failure)
    (n : Nat) : (s.call n).failure = some failure := by
  have again : s.next = ⟨⟨.endOfInput, [], s.pos⟩, some failure, s⟩ := by
    unfold next
    rw [failed]
  have fixed : s.next.source = s := by rw [again]
  rw [call_of_fixed fixed, again]

/-- The end is given again by every later call. -/
theorem call_of_nil {s : Source} (fresh : s.failed = none) (nothing : s.rest = [])
    (whole : s.broken = none) (n : Nat) : s.call n = s.accept .endOfInput [] [] [] := by
  obtain ⟨file, runes, pos, broken, failed⟩ := s
  subst fresh nothing whole
  exact call_of_fixed rfl n

end Source

/-- Calls give the same to a reader that reads rune by rune. -/
theorem RuneReader.scan_call (t : RuneReader) (n : Nat) : (t.call n).scan = t.source.call n := by
  induction n generalizing t with
  | zero => exact scan_next t
  | succ n ih => rw [call, Source.call, ih, source_next]

/-- A token in a text, with the trivia in front of it. -/
structure Piece where
  gap : List Rune
  span : List Rune
  token : Token

def Piece.runes (p : Piece) : List Rune :=
  p.gap ++ p.span

/-- That a call gives the token of a piece between other runes. -/
structure Piece.Stands (p : Piece) (before following : List Rune) (scan : Scan) : Prop where
  failure : scan.failure = none
  token : scan.token = p.token
  trivia : Trivia p.gap
  spelled : Spelled p.span following p.token.kind p.token.lexeme
  pos : p.token.pos = .past (before ++ p.gap)
  past : scan.source.pos = .past (before ++ p.gap ++ p.span)

/-- That something other than trivia follows in which no token is spelled. -/
def Stuck (rest : List Rune) : Prop :=
  ∃ gap after, rest = gap ++ after ∧ Skipped gap after ∧ after ≠ [] ∧
    ∀ span following kind lexeme, after = span ++ following → ¬Spelled span following kind lexeme

/-- How the calls go on when there are no more tokens: at the end, or with a failure. -/
inductive Final (before rest : List Rune) (broken : Option Failure) (calls : Nat → Scan) :
    Prop where
  | ended (trailing : Trailing rest) (failure : ∀ n, (calls n).failure = none)
      (token : ∀ n, (calls n).token = ⟨.endOfInput, [], .past (before ++ rest)⟩)
      (past : ∀ n, (calls n).source.pos = .past (before ++ rest))
  | failed (cause : Failure) (failure : ∀ n, (calls n).failure = some cause)
      (stuck : broken = none → Stuck rest)

/-- How the runes that a source still holds are divided up by the calls to come. -/
structure Layout (before : List Rune) (s : Source) (pieces : List Piece) (rest : List Rune) :
    Prop where
  runes : s.rest = pieces.flatMap Piece.runes ++ rest
  stands : ∀ front piece back, pieces = front ++ piece :: back →
    piece.Stands (before ++ front.flatMap Piece.runes) (back.flatMap Piece.runes ++ rest)
      (s.call front.length)
  final : Final (before ++ pieces.flatMap Piece.runes) rest s.broken
    fun n => s.call (pieces.length + n)

namespace Layout

variable {before rest : List Rune} {s : Source} {pieces : List Piece}

theorem nil (final : Final before s.rest s.broken s.call) : Layout before s [] s.rest where
  runes := rfl
  stands front piece back split := by simp at split
  final := by simpa using final

theorem cons {piece : Piece} (runes : s.rest = piece.runes ++ s.next.source.rest)
    (stands : piece.Stands before s.next.source.rest s.next)
    (broken : s.next.source.broken = s.broken)
    (later : Layout (before ++ piece.runes) s.next.source pieces rest) :
    Layout before s (piece :: pieces) rest where
  runes := by rw [runes, later.runes, List.flatMap_cons, List.append_assoc]
  stands front other back split := by
    cases front with
    | nil =>
      obtain ⟨rfl, rfl⟩ := List.cons.inj split
      rw [later.runes] at stands
      simpa [Source.call] using stands
    | cons first front =>
      obtain ⟨rfl, others⟩ := List.cons.inj split
      simpa [Source.call] using later.stands front other back others
  final := by
    have final := later.final
    rw [broken, List.append_assoc] at final
    simp only [List.length_cons, Nat.add_right_comm _ 1]
    exact final

end Layout

namespace Source

variable {s : Source} {before gap : List Rune}

theorem next_of_fresh (fresh : s.failed = none) : s.next = s.trimmed.token := by
  unfold next
  rw [fresh]

theorem layout_ended (fresh : s.failed = none) (whole : s.rest = gap)
    (pos : s.trimmed.pos = .past (before ++ gap)) (trailing : Trailing gap)
    (unbroken : s.broken = none) (ended : s.next = s.trimmed.accept .endOfInput [] [] []) :
    Layout before s [] s.rest := by
  have calls (n : Nat) : s.call n = s.trimmed.accept .endOfInput [] [] [] := by
    cases n with
    | zero => exact ended
    | succ n =>
      rw [call, ended]
      exact call_of_nil (s := (s.trimmed.accept ..).source) fresh rfl unbroken n
  subst whole
  refine .nil (.ended trailing (fun n => ?_) (fun n => ?_) fun n => ?_)
  · rw [calls, accept]
  · rw [calls, accept, pos]
  · rw [calls, ← pos]
    rfl

theorem layout_failed {failure : Failure} {span rest : List Rune}
    (whole : s.rest = gap ++ s.trimmed.rest) (skipped : Skipped gap s.trimmed.rest)
    (failed : s.next = s.trimmed.stop failure span rest)
    (answer : s.trimmed.token.failure = some failure) : Layout before s [] s.rest := by
  refine .nil (.failed failure (fun n => ?_) fun unbroken => ?_)
  · cases n with
    | zero =>
      rw [call, failed]
      rfl
    | succ n =>
      rw [call, failed]
      exact call_of_failed rfl n
  · obtain ⟨more, none⟩ := stuck_of_failed answer unbroken
    exact ⟨gap, s.trimmed.rest, whole, skipped, more, none⟩

theorem layout_token {span following rest : List Rune} {kind : Kind} {lexeme : Text}
    {pieces : List Piece} (whole : s.rest = gap ++ s.trimmed.rest)
    (pos : s.trimmed.pos = .past (before ++ gap)) (trivia : Trivia gap)
    (front : s.trimmed.rest = span ++ following) (spelled : Spelled span following kind lexeme)
    (read : s.next = s.trimmed.accept kind lexeme span following)
    (later : Layout (before ++ gap ++ span) s.next.source pieces rest) :
    Layout before s (⟨gap, span, ⟨kind, lexeme, s.trimmed.pos⟩⟩ :: pieces) rest := by
  have left : s.next.source.rest = following := by
    rw [read, accept]
  refine Layout.cons ?_ ⟨?_, ?_, trivia, ?_, pos, ?_⟩ ?_ ?_
  · rw [whole, front, left, Piece.runes, List.append_assoc]
  · rw [read, accept]
  · rw [read, accept]
  · rw [left]
    exact spelled
  · rw [read, ← Pos.afterAll_past, ← pos]
    rfl
  · rw [read]
    rfl
  · rw [Piece.runes, ← List.append_assoc]
    exact later

/-- Every source that has not failed is divided up into tokens with trivia between them. -/
theorem exists_layout (s : Source) (before : List Rune) (fresh : s.failed = none)
    (pos : s.pos = .past before) : ∃ pieces rest, Layout before s pieces rest := by
  obtain ⟨gap, whole, place, skipped⟩ := s.trimmed_skipped
  rw [pos, Pos.afterAll_past] at place
  have read := next_of_fresh fresh
  have reading := s.trimmed.reading_token
  generalize answer : s.trimmed.token = scan at read reading
  cases reading with
  | ended nothing unbroken =>
    rw [nothing] at whole skipped
    rw [List.append_nil] at whole
    cases skipped with
    | ended trailing => exact ⟨[], _, layout_ended fresh whole place trailing unbroken read⟩
  | failed => exact ⟨[], _, layout_failed whole skipped read (by rw [answer]; rfl)⟩
  | @token span following kind lexeme front spelled =>
    -- The token is not empty, so there is less to read after it.
    have shorter : s.next.source.rest.length < s.rest.length := by
      apply next_length_lt
      · rw [read, accept]
      · rw [read]
        exact spelled.kind_ne_endOfInput
    have past : s.next.source.pos = .past (before ++ gap ++ span) := by
      rw [read, ← Pos.afterAll_past, ← place]
      rfl
    have later : s.next.source.failed = none := by
      rw [read]
      exact fresh
    have trivia := skipped.trivia (by simp [front, spelled.ne_nil])
    obtain ⟨pieces, rest, layout⟩ := exists_layout s.next.source (before ++ gap ++ span) later past
    exact ⟨_, rest, layout_token whole place trivia front spelled read layout⟩
termination_by s.rest.length

end Source

/-- Each piece is written in the text as its trivia and its token. -/
theorem Layout.written {before : List Rune} {s : Source} {pieces : List Piece} {rest : List Rune}
    (layout : Layout before s pieces rest) :
    Rune.encodeAll (pieces.flatMap Piece.runes) =
      pieces.flatMap fun p => Rune.encodeAll p.gap ++ p.token.written := by
  rw [Rune.encodeAll, List.flatMap_assoc]
  apply List.flatMap_congr
  intro piece member
  obtain ⟨front, back, split⟩ := List.append_of_mem member
  have spelled := (layout.stands front piece back split).spelled
  calc Rune.encodeAll piece.runes
    _ = Rune.encodeAll piece.gap ++ Rune.encodeAll piece.span := Rune.encodeAll_append ..
    _ = Rune.encodeAll piece.gap ++ piece.token.written := by rw [spelled.encodeAll_span]

/-- Whatever the bytes of a text are, calls divide it up without loss into trivia and tokens. Each
    token is written between the trivia just as it stands in the text, no word, keyword or colon
    goes on after it, its position counts lines and runes, and reading goes on just past it. Then
    either nothing but trivia is left and every call gives the end, at the end of the text, or every
    call gives the same failure, because no token is spelled there or reading breaks off. A reader
    that reads rune by rune and can put back one gives the same. -/
theorem text_is_divided_into_tokens (file text : Text) (broken : Option Failure) :
    (∃ (pieces : List Piece) (rest : List Rune),
      Layout [] (.ofText file text broken) pieces rest ∧
        text = (pieces.flatMap fun p => Rune.encodeAll p.gap ++ p.token.written) ++
          Rune.encodeAll rest) ∧
      ∀ n, ((RuneReader.ofText file text broken).call n).scan =
        (Source.ofText file text broken).call n := by
  refine ⟨?_, RuneReader.scan_call (.ofText file text broken)⟩
  obtain ⟨pieces, rest, layout⟩ :=
    Source.exists_layout (.ofText file text broken) [] rfl rfl
  refine ⟨pieces, rest, layout, ?_⟩
  calc text
    _ = Rune.encodeAll (Rune.decode text) := (Rune.encodeAll_decode text).symm
    _ = Rune.encodeAll (pieces.flatMap Piece.runes ++ rest) := congrArg _ layout.runes
    _ = _ := by rw [Rune.encodeAll_append, layout.written]

/-- Columns count characters, whatever their bytes. A comment may hold a stray byte; at one outside of
    comments every further call fails in the same place. -/
example :
    let text := Text.ofString "# ☃" ++ [0xFF] ++ Text.ofString "\n\t\"é→\"select\tx" ++ [0xE2, 0x82]
    let stray : Failure := .ofReport
      { problem := .unexpectedRune (.stray 0xE2), place := .ofPos "a" ⟨2, 14⟩ }
    let calls := (List.range 5).map (Source.ofText "a" text).call
    calls.map Scan.failure = [none, none, none, some stray, some stray] ∧
      (calls.take 3).map Scan.token =
        [⟨.string, "é→", ⟨2, 2⟩⟩, ⟨.select, "select", ⟨2, 6⟩⟩, ⟨.name, "x", ⟨2, 13⟩⟩] := by
  decide +kernel

end Gamebook
