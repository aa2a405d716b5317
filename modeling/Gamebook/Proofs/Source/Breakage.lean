import Gamebook.Proofs.Codes

/-! # Sources that break off

A source that cannot be read on is compared with the sources that go on where it breaks off. Up to
there the same tokens are read. Where the text is at fault for itself, it is at fault however it
goes on; elsewhere the failure says that reading broke off. The one exception is an arrow of which
only the first half was read: it is taken for a fault of the text.
-/

namespace Gamebook

/-- The source that goes on with other runes where this one ends or breaks off. -/
def Source.continued (s : Source) (more : List Rune) : Source :=
  { s with rest := s.rest ++ more, broken := none }

def Scan.continued (result : Scan) (more : List Rune) : Scan :=
  { result with source := result.source.continued more }

namespace Source

variable {s : Source} {cause : Failure} {rest : List Rune}

theorem continued_rest {r : Rune} (front : s.rest = r :: rest) (more : List Rune) :
    (s.continued more).rest = r :: (rest ++ more) := by
  rw [continued, front, List.cons_append]

/-- A run of runes of one sort is not changed by what follows, where it is over or does not go
    on. -/
theorem run_append {sort : Rune → Bool} {rs : List Rune} (more : List Rune)
    (ends : rs.dropWhile sort ≠ [] ∨ ∀ x ∈ more.head?, ¬sort x) :
    (rs ++ more).takeWhile sort = rs.takeWhile sort ∧
      (rs ++ more).dropWhile sort = rs.dropWhile sort ++ more := by
  have inside : ∀ x ∈ rs.takeWhile sort, sort x := fun x => List.mem_takeWhile_imp
  have maximal : ∀ x ∈ (rs.dropWhile sort ++ more).head?, ¬sort x := by
    by_cases nothing : rs.dropWhile sort = []
    · rw [nothing, List.nil_append]
      exact ends.resolve_left (not_not.mpr nothing)
    · rw [List.head?_append_of_ne_nil _ nothing]
      exact run_maximal sort rs
  have run := run_exact (rs.dropWhile sort ++ more) inside maximal
  rwa [← List.append_assoc, List.takeWhile_append_dropWhile] at run

/-- What can come of reading the front of a broken source, beside what comes of it where the source
    goes on. -/
inductive Cut (s : Source) (cause : Failure) : Scan → Prop where
  /-- What follows does not matter. -/
  | sure {result : Scan} (front : s.rest ≠ [])
      (same : ∀ more, (s.continued more).token = result.continued more) : Cut s cause result
  /-- It breaks off behind what would be a token if nothing followed. -/
  | unsure (span : List Rune) (ok : (s.continued []).token.failure = none)
      (nothing : (s.continued []).token.source.rest = []) : Cut s cause (s.interrupt cause span)
  /-- It breaks off in what is no token yet, and an angle bracket would not make it one. -/
  | faulty (span : List Rune) {failure : Failure} (front : s.rest ≠ [])
      (failed : (s.continued [.char '>']).token.failure = some failure) :
    Cut s cause (s.interrupt cause span)
  /-- It breaks off in an arrow, where it is not asked why. -/
  | arrow (half : s.rest = [.char '=']) :
    Cut s cause (s.reject .loneEquals s.pos [.char '='] [])

theorem cut_arrow (front : s.rest = .char '=' :: rest) : s.Cut cause (s.arrow rest) := by
  have again (more : List Rune) :
      (s.continued more).token = (s.continued more).arrow (rest ++ more) := by
    rw [token_cons (continued_rest front more), if_neg (by decide), if_neg (by decide),
      if_neg (by decide), if_neg (by decide), if_pos rfl]
  cases rest with
  | nil => exact .arrow front
  | cons r after =>
    apply Cut.sure (by simp [front])
    intro more
    rw [again, List.cons_append]
    by_cases bracket : r = .char '>'
    · subst bracket
      rfl
    · rw [arrow_of_ne bracket, arrow_of_ne bracket]
      rfl

section Token

variable (ends : s.broken = some cause)
include ends

theorem settle_of_broken (span : List Rune) (result : Scan) :
    s.settle span [] result = s.interrupt cause span := by
  unfold settle
  rw [ends]

/-- A token may go on where the source breaks off. It does not if nothing follows, or an angle
    bracket. -/
theorem cut_settle {span after : List Rune} {result : Scan} (front : s.rest ≠ [])
    (left : result.source.rest = after) (goesOn : Rune → Bool) (bracket : ¬goesOn (.char '>'))
    (again : ∀ more, (after ≠ [] ∨ ∀ x ∈ more.head?, ¬goesOn x) →
      (s.continued more).token = result.continued more) :
    s.Cut cause (s.settle span after result) := by
  by_cases nothing : after = []
  · subst nothing
    rw [settle_of_broken ends]
    have whole := again [] (.inr (by simp))
    have closed := again [.char '>'] (.inr (by simpa using bracket))
    cases failed : result.failure with
    | none =>
      apply Cut.unsure
      · rw [whole]
        exact failed
      · rw [whole]
        exact List.append_eq_nil_iff.mpr ⟨left, rfl⟩
    | some failure =>
      apply Cut.faulty span front
      rw [closed]
      exact failed
  · rw [settle_of_sure (.inr nothing)]
    exact .sure front fun more => again more (.inl nothing)

theorem cut_keyword (front : s.rest = .char '@' :: rest) : s.Cut cause (s.keyword rest) := by
  refine cut_settle ends (by simp [front]) ?_ Rune.inSigil (by decide) ?_
  · cases Kind.ofSigil? (Rune.encodeAll (.char '@' :: rest.takeWhile Rune.inSigil)) with
    | none => rfl
    | some kind => rfl
  · intro more fits
    obtain ⟨taken, left⟩ := run_append more fits
    rw [token_cons (continued_rest front more), if_pos rfl]
    simp only [keyword, taken, left]
    rw [settle_of_sure (.inl rfl)]
    cases Kind.ofSigil? (Rune.encodeAll (.char '@' :: rest.takeWhile Rune.inSigil)) with
    | none => rfl
    | some kind => rfl

theorem cut_word {r : Rune} (front : s.rest = r :: rest) (starts : r.startsName) :
    s.Cut cause s.word := by
  refine cut_settle ends (by simp [front]) ?_ Rune.inName (by decide) ?_
  · rfl
  · intro more fits
    obtain ⟨taken, left⟩ := run_append more fits
    have notSigil : r ≠ .char '@' := by
      rintro rfl
      exact absurd starts (by decide)
    have notQuote : r ≠ .char '"' := by
      rintro rfl
      exact absurd starts (by decide)
    have longer : (s.continued more).rest = s.rest ++ more := rfl
    rw [token_cons (continued_rest front more), if_neg notSigil, if_neg notQuote, if_pos starts]
    simp only [word, longer, taken, left]
    exact settle_of_sure (.inl rfl)

theorem cut_string (front : s.rest = .char '"' :: rest) : s.Cut cause (s.string rest) := by
  have again (more : List Rune) :
      (s.continued more).token = (s.continued more).string (rest ++ more) := by
    rw [token_cons (continued_rest front more), if_neg (by decide), if_pos rfl]
  cases closing : rest.dropWhile Rune.inString with
  | nil =>
    have closed : (rest ++ [Rune.char '>']).dropWhile Rune.inString = [] := by
      rw [List.dropWhile_append, closing]
      rfl
    have failed : ((s.continued [.char '>']).string (rest ++ [.char '>'])).failure =
        some (.ofReport { problem := .unterminatedString, place := .ofPos s.file s.pos }) := by
      simp only [string, closed]
      rfl
    rw [← again] at failed
    simp only [string, closing]
    rw [settle_of_broken ends]
    exact .faulty _ (by simp [front]) failed
  | cons r after =>
    apply Cut.sure (by simp [front])
    intro more
    obtain ⟨taken, left⟩ := run_append more (.inl (closing ▸ List.cons_ne_nil r after))
    rw [closing, List.cons_append] at left
    rw [again]
    simp only [string, closing, taken, left]
    cases r with
    | char c => rfl
    | stray b => rfl

theorem cut_colons (front : s.rest = .char ':' :: rest) : s.Cut cause (s.colons rest) := by
  have again (more : List Rune) :
      (s.continued more).token = (s.continued more).colons (rest ++ more) := by
    rw [token_cons (continued_rest front more), if_neg (by decide), if_neg (by decide),
      if_neg (by decide), if_pos rfl]
  unfold colons
  split
  · next after =>
    apply Cut.sure (by simp [front])
    intro more
    rw [again]
    rfl
  · next single =>
    refine cut_settle ends (by simp [front]) ?_ (· = .char ':') (by decide) ?_
    · rfl
    · intro more fits
      rw [again, colons]
      · exact settle_of_sure (.inl rfl)
      · rintro after whole
        cases rest with
        | nil => exact fits.elim (absurd rfl) fun apart => apart (.char ':') (by simp_all) (by simp)
        | cons r rest =>
          obtain ⟨rfl, -⟩ := List.cons.inj whole
          exact single rest rfl

theorem cut_token : s.Cut cause s.token := by
  cases front : s.rest with
  | nil =>
    have broke : s.token = s.interrupt cause [] := by
      simp only [token, front, ends]
    have whole : (s.continued []).token = (s.continued []).accept .endOfInput [] [] [] := by
      simp only [token, continued, front, List.nil_append]
    rw [broke]
    apply Cut.unsure
    · rw [whole]
      rfl
    · rw [whole]
      rfl
  | cons r rest =>
    rw [token_cons front]
    split
    · next sigil => exact cut_keyword ends (sigil ▸ front)
    split
    · next quote => exact cut_string ends (quote ▸ front)
    split
    · next starts => exact cut_word ends front starts
    split
    · next colon => exact cut_colons ends (colon ▸ front)
    split
    · next equals => exact cut_arrow (equals ▸ front)
    next noSigil noQuote noName noColon noEquals =>
      apply Cut.sure (by simp [front])
      intro more
      rw [token_cons (continued_rest front more), if_neg noSigil, if_neg noQuote, if_neg noName,
        if_neg noColon, if_neg noEquals]
      cases r.mark? with
      | none => rfl
      | some kind => rfl

end Token

/-! ## Reading on -/

theorem trimmed_continued_nil (s : Source) : (s.continued []).trimmed = s.trimmed.continued [] := by
  simp only [trimmed, continued, List.append_nil]

/-- Trivia in front of other runes does not change where the source goes on. -/
theorem trimmed_continued (front : s.trimmed.rest ≠ []) (more : List Rune) :
    (s.continued more).trimmed = s.trimmed.continued more := by
  obtain ⟨gap, whole, pos, skipped⟩ := s.trimmed_skipped
  cases left : s.trimmed.rest with
  | nil => exact absurd left front
  | cons r after =>
    rw [left] at whole skipped
    cases skipped with
    | front trivia noBlank noComment =>
      have skips : skipTrivia false s.pos (s.rest ++ more) =
          (s.pos.afterAll gap, r :: after ++ more) := by
        rw [whole, List.append_assoc, skipTrivia_append trivia, List.cons_append, skipTrivia,
          if_neg noBlank, if_neg noComment]
      have trims : (s.continued more).trimmed =
          { s with rest := r :: after ++ more, pos := s.pos.afterAll gap, broken := none } := by
        simp only [trimmed, continued, skips]
      rw [trims, continued, left, pos]
      rfl

/-- How the tokens of a broken source end, beside those of the source where it goes on. -/
inductive Ending (s : Source) (cause : Failure) : Failure → Prop where
  | interrupted (unclear : (s.continued []).tokens.failure = none ∨
      (s.continued [.char '>']).tokens.failure ≠ none) :
    Ending s cause (.because (.brokenSource s.file) cause)
  | rejected {f : Failure} (always : ∀ more, (s.continued more).tokens.failure = some f) :
    Ending s cause f
  | halved {f : Failure} (alone : (s.continued []).tokens.failure = some f)
      (mended : (s.continued [.char '>']).tokens.failure = none) : Ending s cause f

namespace Ending

variable {f : Failure}

/-- Tokens that are read in front do not matter for how the tokens end. -/
theorem of_later {later : Source} (ending : later.Ending cause f) (file : later.file = s.file)
    (same : ∀ more, (s.continued more).tokens.failure = (later.continued more).tokens.failure) :
    s.Ending cause f := by
  cases ending with
  | interrupted unclear =>
    rw [← same, ← same] at unclear
    rw [file]
    exact .interrupted unclear
  | rejected always => exact .rejected fun more => (same more).trans (always more)
  | halved alone mended => exact .halved ((same _).trans alone) ((same _).trans mended)

end Ending

/-- A token that is read leaves the source as it was but for what was read. -/
theorem next_kept (fresh : s.failed = none) (ok : s.next.failure = none) :
    s.next.source.file = s.file ∧ s.next.source.broken = s.broken ∧
      s.next.source.failed = none := by
  rw [next_of_fresh fresh] at ok ⊢
  have reading := s.trimmed.reading_token
  generalize s.trimmed.token = scan at ok reading
  cases reading with
  | ended nothing whole => exact ⟨rfl, rfl, fresh⟩
  | token front spelled => exact ⟨rfl, rfl, fresh⟩
  | failed => cases ok

/-- A broken source has no end. -/
theorem next_kind_of_broken (fresh : s.failed = none) (ends : s.broken = some cause)
    (ok : s.next.failure = none) : s.next.token.kind ≠ .endOfInput := by
  rw [next_of_fresh fresh] at ok ⊢
  have reading := s.trimmed.reading_token
  generalize s.trimmed.token = scan at ok reading
  cases reading with
  | ended nothing whole => cases ends.symm.trans whole
  | token front spelled => exact spelled.kind_ne_endOfInput
  | failed => cases ok

theorem tokens_failure {f : Failure} (failed : s.next.failure = some f) :
    s.tokens.failure = some f := by
  rw [tokens_of_failed failed]

/-- No failure comes after the last token. -/
theorem tokens_of_last (fresh : s.failed = none) (whole : s.broken = none)
    (ok : s.next.failure = none) (nothing : s.next.source.rest = []) : s.tokens.failure = none := by
  by_cases ended : s.next.token.kind = .endOfInput
  · rw [tokens_of_ended ok ended]
  · obtain ⟨-, unbroken, again⟩ := next_kept fresh ok
    have scans : Scans [] [] := .ended (.trivia .nil)
    rw [tokens_of_more ok ended]
    exact (tokens_of_scans scans nothing (unbroken.trans whole) again).1

theorem next_continued_nil (fresh : s.failed = none) :
    (s.continued []).next = (s.trimmed.continued []).token := by
  rw [next_of_fresh (s := s.continued []) fresh, trimmed_continued_nil]

theorem next_continued (fresh : s.failed = none) (front : s.trimmed.rest ≠ [])
    (more : List Rune) : (s.continued more).next = (s.trimmed.continued more).token := by
  rw [next_of_fresh (s := s.continued more) fresh, trimmed_continued front]

/-- Half an arrow is rejected, though the other half may follow. -/
theorem ending_of_half (fresh : s.failed = none) (half : s.trimmed.rest = [.char '=']) :
    s.Ending cause
      (.ofReport { problem := .loneEquals, place := .ofPos s.file s.trimmed.pos }) := by
  have alone : (s.continued []).next =
      (s.trimmed.continued []).reject .loneEquals s.trimmed.pos [.char '='] [] := by
    rw [next_continued_nil fresh]
    exact token_cons (continued_rest half [])
  have mended : (s.continued [.char '>']).next =
      (s.trimmed.continued [.char '>']).accept .arrow "=>" [.char '=', .char '>'] [] := by
    rw [next_continued fresh (by simp [half])]
    exact token_of_spelled (continued_rest half _) .arrow (.inl rfl)
  apply Ending.halved
  · apply tokens_failure
    rw [alone, reject, stop]
    simp only [continued, trimmed]
  · apply tokens_of_last (s := s.continued [.char '>']) fresh rfl
    · rw [mended, accept]
    · rw [mended, accept]

/-- Reading a broken source to where it breaks off fails in one of three ways. -/
theorem exists_ending (s : Source) (fresh : s.failed = none) (ends : s.broken = some cause) :
    ∃ f, s.tokens.failure = some f ∧ s.Ending cause f := by
  have read := next_of_fresh fresh
  have cut : s.trimmed.Cut cause s.trimmed.token := cut_token ends
  generalize s.trimmed.token = scan at read cut
  cases cut with
  | sure front same =>
    have again (more : List Rune) : (s.continued more).next = s.next.continued more := by
      rw [next_continued fresh front, same, read]
    cases failed : s.next.failure with
    | some f =>
      refine ⟨f, tokens_failure failed, .rejected fun more => tokens_failure ?_⟩
      rw [again]
      exact failed
    | none =>
      -- The same token is read however the source goes on, so what comes of it is decided later.
      have more := next_kind_of_broken fresh ends failed
      have shorter := next_length_lt failed more
      obtain ⟨file, broken, later⟩ := next_kept fresh failed
      obtain ⟨f, failure, ending⟩ := exists_ending s.next.source later (broken.trans ends)
      refine ⟨f, ?_, ending.of_later file fun after => ?_⟩
      · rw [tokens_of_more failed more]
        exact failure
      · rw [tokens_of_more (by rw [again]; exact failed) (by rw [again]; exact more), again,
          Scan.continued]
  | unsure span ok nothing =>
    rw [← next_continued_nil fresh] at ok nothing
    have failed : s.next.failure = some (.because (.brokenSource s.file) cause) := congrArg _ read
    refine ⟨_, tokens_failure failed, .interrupted (.inl ?_)⟩
    exact tokens_of_last (s := s.continued []) fresh rfl ok nothing
  | faulty span front faulty =>
    rw [← next_continued fresh front] at faulty
    have failed : s.next.failure = some (.because (.brokenSource s.file) cause) := congrArg _ read
    refine ⟨_, tokens_failure failed, .interrupted (.inr ?_)⟩
    simp [tokens_failure faulty]
  | arrow half => exact ⟨_, tokens_failure (congrArg _ read), ending_of_half fresh half⟩
termination_by s.rest.length

end Source

/-! ## Texts that break off -/

/-- That a text breaks off in an arrow: it cannot be read to its end as it is, and it can with the
    second half of the arrow. -/
def Text.CutsArrow (file front : Text) : Prop :=
  (Source.ofText file front).tokens.failure ≠ none ∧
    (Source.ofText file (front ++ ">")).tokens.failure = none

/-- That a failure after a text is put down to what caused it, or else to a fault of the text that
    is reported alike however the text goes on. -/
def Failure.Fair (f : Failure) (file : Text) (front : String) (cause : Failure) : Prop :=
  f = .because (.brokenSource file) cause ∨
    f.code = .lexical ∧
      ∀ more : String, (Source.ofText file (front ++ more)).tokens.failure = some f

/-- Characters that follow a text are read after it. -/
theorem Source.continued_ofText (file : Text) (front : String) (cause : Failure) (more : Text) :
    (ofText file front (some cause)).continued (Rune.decode more) =
      ofText file (front ++ more) := by
  have runes : Rune.decode front = front.toList.map .char := by
    simpa [Rune.decode, Rune.decodeFrom] using Rune.decode_ofString_append front []
  simp only [continued, ofText, runes, Rune.decode_ofString_append]

/-- Where a source breaks off after some characters, the failure tells why it cannot be read on,
    unless the text is at fault already: then the same fault is reported however the text goes on.
    This fails for just those texts that break off in the middle of an arrow. -/
theorem failure_is_fair_iff_no_arrow_is_cut (file : Text) (front : String) (cause : Failure) :
    ∃ f, (Source.ofText file front (some cause)).tokens.failure = some f ∧
      (f.code = .lexical ∨ f = .because (.brokenSource file) cause) ∧
      (f.Fair file front cause ↔ ¬Text.CutsArrow file front) := by
  obtain ⟨f, failed, ending⟩ :=
    Source.exists_ending (.ofText file front (some cause)) rfl rfl
  have goesOn := Source.continued_ofText file front cause
  have alone : (Source.ofText file front (some cause)).continued [] = .ofText file front := by
    have whole := goesOn []
    rwa [List.append_nil] at whole
  have bracket : (Source.ofText file front (some cause)).continued [.char '>'] =
      .ofText file (front ++ ">") := goesOn ">"
  have lexical {text : Text} {fault : Failure}
      (fails : (Source.ofText file text).tokens.failure = some fault) : fault.code = .lexical :=
    Source.tokens_failure_code (Source.sound_ofText file text) fails
  refine ⟨f, failed, ?_⟩
  cases ending with
  | interrupted unclear =>
    rw [alone, bracket] at unclear
    refine ⟨.inr rfl, fun _ cuts => ?_, fun _ => .inl rfl⟩
    rcases unclear with whole | fails
    · exact cuts.1 whole
    · exact fails cuts.2
  | rejected always =>
    have code := lexical (alone ▸ always [])
    refine ⟨.inl code, fun _ cuts => ?_, fun _ => .inr ⟨code, fun more => ?_⟩⟩
    · have fails := always [.char '>']
      rw [bracket, cuts.2] at fails
      cases fails
    · rw [← goesOn]
      exact always _
  | halved fails mended =>
    rw [alone] at fails
    rw [bracket] at mended
    have code := lexical fails
    have cuts : Text.CutsArrow file front := ⟨by simp [fails], mended⟩
    refine ⟨.inl code, fun fair => ?_, fun whole => absurd cuts whole⟩
    rcases fair with rfl | ⟨-, always⟩
    · cases code
    · have fails := always ">"
      rw [mended] at fails
      cases fails

/-- Only the first half of an arrow is read, and a fault of the text is reported that the second
    half would have mended. -/
theorem half_arrow_is_blamed_on_text :
    ∃ f, (Source.ofText "t.nar" "=" (some [.said "disk on fire"])).tokens.failure = some f ∧
      f.text = "t.nar:1:1: unexpected character '=' (did you mean '=>'?)" ∧
      ¬f.Fair "t.nar" "=" [.said "disk on fire"] := by
  refine ⟨_, Source.tokens_failure rfl, by decide, ?_⟩
  rintro (interrupted | ⟨-, always⟩)
  · cases interrupted
  · have fails := always ">"
    have spells := Text.Spells.nil.arrow
    have ok := (Source.tokens_of_scans (s := .ofText "t.nar" "=>") spells rfl rfl rfl).1
    cases ok.symm.trans fails

end Gamebook
