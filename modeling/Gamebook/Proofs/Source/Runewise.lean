import Gamebook.Proofs.Source.Spelling

/-! # Reading a source rune by rune

The reader here takes one rune at a time. It keeps the position of the next rune and the one before the
last rune, and it can put back the last rune once; nothing else lets it look ahead. Its loops go on
from rune to rune and never see how much is left. It gives the tokens of `Source.next`, at the same
positions.
-/

namespace Gamebook

/-- A source that is read rune by rune. -/
structure RuneReader where
  file : Text
  /-- The runes that are still to be read. -/
  rest : List Rune
  /-- The position of the next rune. -/
  pos : Pos := .start
  /-- The position before the last rune that was read. -/
  previous : Pos := ⟨0, 0⟩
  /-- The number of bytes of the last rune that was read. -/
  width : Nat := 0
  /-- The rune that can be put back. -/
  last : Option Rune := none
  /-- What has been gathered of a token. -/
  gathered : Text := []
  broken : Option Failure := none
  failed : Option Failure := none

/-- What comes of reading one rune. -/
inductive RuneStep where
  | rune (r : Rune)
  | finished
  | broken (cause : Failure)

/-- The result of reading one token rune by rune. -/
structure RuneScan where
  token : Token
  failure : Option Failure
  reader : RuneReader

/-- The character that is seen of a rune. All stray bytes look alike, and like the character that
    stands in for what cannot be shown. -/
def Rune.seen : Rune → Char
  | .char c => c
  | .stray _ => '�'

namespace Source

/-- The source without the blanks and comments at its front, which may be the rest of a comment. -/
def trimmedIn (inComment : Bool) (s : Source) : Source :=
  { s with
    pos := (skipTrivia inComment s.pos s.rest).1
    rest := (skipTrivia inComment s.pos s.rest).2 }

/-- The source when `span` has been read and `rest` is left. -/
def past (s : Source) (span rest : List Rune) : Source :=
  { s with rest, pos := s.pos.afterAll span }

/-- What broke a source, if a loop over it has left nothing to read. -/
def doubt (s : Source) (rest : List Rune) : Option Failure :=
  if rest = [] then s.broken else none

end Source

namespace RuneReader

def ofText (file text : Text) (broken : Option Failure := none) : RuneReader :=
  { file, rest := Rune.decode text, broken }

/-- What is left of the source. -/
def source (t : RuneReader) : Source :=
  ⟨t.file, t.rest, t.pos, t.broken, t.failed⟩

/-- The reader when a rune has been read and `rest` is left. -/
def took (t : RuneReader) (r : Rune) (rest : List Rune) : RuneReader :=
  { t with
    rest, pos := t.pos.after r, previous := t.pos, width := r.encode.length, last := some r }

/-- The reader when there was nothing to read. -/
def atEnd (t : RuneReader) : RuneReader :=
  { t with last := none }

/-- Reads one rune. -/
def read (t : RuneReader) : RuneStep × RuneReader :=
  match t.rest, t.broken with
  | r :: rest, _ => (.rune r, t.took r rest)
  | [], none => (.finished, t.atEnd)
  | [], some cause => (.broken cause, t.atEnd)

/-- Puts back the rune that was read last. This cannot be done twice. -/
def unread (t : RuneReader) : RuneReader :=
  match t.last with
  | some r => { t with rest := r :: t.rest, pos := t.previous, last := none }
  | none => t

def cleared (t : RuneReader) : RuneReader :=
  { t with gathered := [] }

def gather (t : RuneReader) (r : Rune) : RuneReader :=
  { t with gathered := t.gathered ++ r.encode }

/-! ## Runes -/

section Read

variable {t next : RuneReader} {r : Rune} {rest : List Rune}

theorem read_cons (front : t.rest = r :: rest) : t.read = (.rune r, t.took r rest) := by
  unfold read
  rw [front]

theorem read_nil (ended : t.rest = []) :
    t.read = (t.broken.elim .finished .broken, t.atEnd) := by
  unfold read
  rw [ended]
  cases t.broken <;> rfl

theorem rest_of_read (step : t.read = (.rune r, next)) : t.rest = r :: next.rest := by
  cases runes : t.rest with
  | nil =>
    rw [read_nil runes] at step
    cases broken : t.broken <;> simp [broken] at step
  | cons first rest =>
    rw [read_cons runes] at step
    cases step
    rfl

theorem length_of_read (step : t.read = (.rune r, next)) : next.rest.length < t.rest.length := by
  rw [rest_of_read step]
  exact Nat.lt_succ_self _

/-- A rune that is put back leaves the source as it was, at the position where it was. -/
theorem source_unread (front : t.rest = r :: rest) : (t.took r rest).unread.source = t.source := by
  simp [took, unread, source, front]

end Read

/-! ## Tokens -/

def found (t : RuneReader) (start : Pos) (kind : Kind) (lexeme : Text) : RuneScan :=
  ⟨⟨kind, lexeme, start⟩, none, t⟩

/-- A failure ends the reading for good. -/
def stop (t : RuneReader) (start : Pos) (failure : Failure) : RuneScan :=
  ⟨⟨.endOfInput, [], start⟩, some failure, { t with failed := some failure }⟩

def reject (t : RuneReader) (start : Pos) (problem : Problem) (at_ : Pos) : RuneScan :=
  t.stop start (.ofReport { problem, place := .ofPos t.file at_ })

def interrupt (t : RuneReader) (start : Pos) (cause : Failure) : RuneScan :=
  t.stop start (.because (.brokenSource t.file) cause)

/-- Goes on where a loop has ended, unless the source broke in it. -/
def resume (start : Pos) (loop : Option Failure × RuneReader) (goOn : RuneReader → RuneScan) :
    RuneScan :=
  match loop.1 with
  | some cause => loop.2.interrupt start cause
  | none => goOn loop.2

/-- Reads to the end of a line, and says how that ended. -/
def toLineEnd (t : RuneReader) : RuneStep × RuneReader :=
  match _step : t.read with
  | (.rune r, next) => if r = .char '\n' then (.rune r, next) else next.toLineEnd
  | ended => ended
termination_by t.rest.length
decreasing_by exact length_of_read _step

theorem toLineEnd_cases (t : RuneReader) :
    (∃ r next, t.toLineEnd = (.rune r, next) ∧ next.rest.length < t.rest.length ∧
        next.source.trimmed = t.source.trimmedIn true) ∨
      ∃ last, t.toLineEnd = (t.broken.elim .finished .broken, last) ∧ last.rest = [] ∧
        last.source = t.source.trimmedIn true := by
  induction runes : t.rest generalizing t with
  | nil =>
    refine .inr ⟨t.atEnd, ?_, runes, ?_⟩
    · rw [toLineEnd, read_nil runes]
      cases t.broken <;> rfl
    · simp [Source.trimmedIn, source, runes, Source.skipTrivia, atEnd]
  | cons r rest ih =>
    have skipped : t.source.trimmedIn true =
        (t.took r rest).source.trimmedIn (r ≠ .char '\n') := by
      simp [Source.trimmedIn, source, runes, Source.skipTrivia, took]
    by_cases ends : r = .char '\n'
    · refine .inl ⟨r, t.took r rest, ?_, Nat.lt_succ_self _, ?_⟩
      · rw [toLineEnd, read_cons runes]
        exact if_pos ends
      · rw [skipped]
        simp only [ends, ne_eq, not_true, decide_false]
        rfl
    · have on : t.toLineEnd = (t.took r rest).toLineEnd := by
        rw [toLineEnd, read_cons runes]
        exact if_neg ends
      have still : t.source.trimmedIn true = (t.took r rest).source.trimmedIn true := by
        rw [skipped]
        simp only [ends, ne_eq, not_false_eq_true, decide_true]
      rw [on, still]
      rcases ih (t.took r rest) rfl with ⟨r', next, line, less, same⟩ | ended
      · exact .inl ⟨r', next, line, Nat.lt_succ_of_lt less, same⟩
      · exact .inr ended

theorem length_toLineEnd {t next : RuneReader} {r : Rune} (line : t.toLineEnd = (.rune r, next)) :
    next.rest.length < t.rest.length := by
  rcases t.toLineEnd_cases with ⟨r', next', line', less, -⟩ | ⟨last, line', -⟩
  · rw [line'] at line
    cases line
    exact less
  · rw [line'] at line
    cases broken : t.broken <;> simp [broken] at line

/-- Reads past blanks and comments, and says what broke the source, if something did. -/
def skip (t : RuneReader) : Option Failure × RuneReader :=
  match _step : t.read with
  | (.finished, next) => (none, next)
  | (.broken cause, next) => (some cause, next)
  | (.rune r, next) =>
    if r.isBlank then next.skip
    else if r = .char '#' then
      match _line : next.toLineEnd with
      | (.finished, last) => (none, last)
      | (.broken cause, last) => (some cause, last)
      | (.rune _, after) => after.skip
    else (none, next.unread)
termination_by t.rest.length
decreasing_by
  · exact length_of_read _step
  · exact (length_toLineEnd _line).trans (length_of_read _step)

/-- Gathers runes as long as they are accepted. -/
def gatherWhile (accepts : Rune → Bool) (t : RuneReader) : Option Failure × RuneReader :=
  match _step : t.read with
  | (.finished, next) => (none, next)
  | (.broken cause, next) => (some cause, next)
  | (.rune r, next) =>
    if accepts r then (next.gather r).gatherWhile accepts else (none, next.unread)
termination_by t.rest.length
decreasing_by
  have shorter := length_of_read _step
  exact shorter

def word (accepts : Rune → Bool) (t : RuneReader) : Option Failure × RuneReader :=
  t.cleared.gatherWhile accepts

/-- Reads a keyword after its sigil. -/
def keyword (start : Pos) (t : RuneReader) : RuneScan :=
  resume start (t.word Rune.inSigil) fun t =>
    let word := "@" ++ t.gathered
    match Kind.ofSigil? word with
    | some kind => t.found start kind word
    | none => t.reject start (.unknownKeyword word) start

/-- Gathers the runes of a string up to its closing quote. -/
def stringFrom (start : Pos) (t : RuneReader) : RuneScan :=
  match _step : t.read with
  | (.finished, next) => next.reject start .unterminatedString start
  | (.broken cause, next) => next.interrupt start cause
  | (.rune r, next) =>
    if r = .char '"' then next.found start .string next.gathered
    else if r.seen = '�' ∧ next.width = 1 then
      next.reject start .strayByteInString next.previous
    else (next.gather r).stringFrom start
termination_by t.rest.length
decreasing_by
  have shorter := length_of_read _step
  exact shorter

/-- Reads a string after its opening quote. -/
def string (start : Pos) (t : RuneReader) : RuneScan :=
  t.cleared.stringFrom start

/-- Reads a name or a reserved word. -/
def name (start : Pos) (t : RuneReader) : RuneScan :=
  resume start (t.word Rune.inName) fun t => t.found start (Kind.ofWord t.gathered) t.gathered

/-- Reads what may follow a colon. -/
def colons (start : Pos) (t : RuneReader) : RuneScan :=
  match t.read with
  | (.rune r, next) =>
    if r = .char ':' then next.found start .scope "::" else next.unread.found start .colon ":"
  | (.finished, next) => next.found start .colon ":"
  | (.broken cause, next) => next.interrupt start cause

/-- Reads what must follow an equals sign. -/
def arrow (start : Pos) (t : RuneReader) : RuneScan :=
  match t.read with
  | (.rune r, next) =>
    if r = .char '>' then next.found start .arrow "=>" else next.reject start .loneEquals start
  | (_, next) => next.reject start .loneEquals start

/-- Reads the token that starts with the next rune. -/
def token (t : RuneReader) : RuneScan :=
  match t.read with
  | (.finished, next) => next.found t.pos .endOfInput []
  | (.broken cause, next) => next.interrupt t.pos cause
  | (.rune r, next) =>
    if r = .char '@' then next.keyword t.pos
    else if r = .char '"' then next.string t.pos
    else if r.startsName then next.unread.name t.pos
    else if r = .char ':' then next.colons t.pos
    else if r = .char '=' then next.arrow t.pos
    else
      match r.mark? with
      | some kind => next.found t.pos kind kind.text
      | none => next.reject t.pos (.unexpectedRune r) t.pos

/-- Reads the next token. -/
def next (t : RuneReader) : RuneScan :=
  match t.failed with
  | some failure => ⟨⟨.endOfInput, [], t.pos⟩, some failure, t⟩
  | none => resume t.skip.2.pos t.skip token

/-! ## Loops -/

section Loops

variable {t : RuneReader} {r : Rune} {rest : List Rune}

theorem skip_nil (ended : t.rest = []) : t.skip = (t.broken, t.atEnd) := by
  rw [skip, read_nil ended]
  cases t.broken <;> rfl

theorem skip_of_blank (front : t.rest = r :: rest) (blank : r.isBlank) :
    t.skip = (t.took r rest).skip := by
  rw [skip, read_cons front]
  exact if_pos blank

theorem skip_of_front (front : t.rest = r :: rest) (noBlank : ¬r.isBlank)
    (noComment : r ≠ .char '#') : t.skip = (none, (t.took r rest).unread) := by
  rw [skip, read_cons front]
  exact (if_neg noBlank).trans (if_neg noComment)

theorem skip_of_comment (front : t.rest = r :: rest) (noBlank : ¬r.isBlank)
    (comment : r = .char '#') {next : RuneReader} {r' : Rune}
    (line : (t.took r rest).toLineEnd = (.rune r', next)) : t.skip = next.skip := by
  rw [skip, read_cons front]
  refine (if_neg noBlank).trans ((if_pos comment).trans ?_)
  rw [line]

theorem skip_of_last_comment (front : t.rest = r :: rest) (noBlank : ¬r.isBlank)
    (comment : r = .char '#') {last : RuneReader}
    (line : (t.took r rest).toLineEnd = (t.broken.elim .finished .broken, last)) :
    t.skip = (t.broken, last) := by
  rw [skip, read_cons front]
  refine (if_neg noBlank).trans ((if_pos comment).trans ?_)
  rw [line]
  cases t.broken <;> rfl

theorem trimmed_cons (front : t.rest = r :: rest) :
    t.source.trimmed =
      if r.isBlank then (t.took r rest).source.trimmed
      else if r = .char '#' then (t.took r rest).source.trimmedIn true
      else t.source := by
  simp only [Source.trimmed, Source.trimmedIn, source, front, Source.skipTrivia, took]
  split
  · rfl
  · split <;> simp [*]

/-- Blanks and comments are skipped, and the rune after them is put back. -/
theorem skip_eq (t : RuneReader) :
    t.skip.1 = t.source.doubt t.source.trimmed.rest ∧ t.skip.2.source = t.source.trimmed := by
  induction size : t.rest.length using Nat.strongRecOn generalizing t with
  | ind n ih =>
    cases runes : t.rest with
    | nil =>
      have same : t.source.trimmed = t.source := by
        simp [Source.trimmed, source, runes, Source.skipTrivia]
      have nothing : t.source.rest = [] := runes
      rw [skip_nil runes, same, nothing]
      exact ⟨(if_pos rfl).symm, rfl⟩
    | cons r rest =>
      have less : (t.took r rest).rest.length < n := by
        rw [← size, runes]
        exact Nat.lt_succ_self _
      rw [trimmed_cons runes]
      split
      · next blank =>
        rw [skip_of_blank runes blank]
        exact ih _ less (t.took r rest) rfl
      · next noBlank =>
        split
        · next comment =>
          rcases (t.took r rest).toLineEnd_cases with
            ⟨r', next, line, shorter, same⟩ | ⟨last, line, ended, same⟩
          · -- The comment ended with its line, and skipping goes on behind it.
            have broken : next.broken = t.broken := congrArg Source.broken same
            have doubt : t.source.doubt = next.source.doubt := by
              unfold Source.doubt
              rw [show t.source.broken = next.source.broken from broken.symm]
            rw [skip_of_comment runes noBlank comment line, ← same, doubt]
            exact ih _ (shorter.trans less) next rfl
          · have nothing : last.source.rest = [] := ended
            rw [skip_of_last_comment runes noBlank comment line, ← same, nothing]
            exact ⟨(if_pos rfl).symm, rfl⟩
        · next noComment =>
          have more : t.source.rest ≠ [] := by simp [source, runes]
          rw [skip_of_front runes noBlank noComment]
          exact ⟨(if_neg more).symm, source_unread runes⟩

theorem gatherWhile_eq (accepts : Rune → Bool) (t : RuneReader) :
    (t.gatherWhile accepts).1 = t.source.doubt (t.rest.dropWhile accepts) ∧
      (t.gatherWhile accepts).2.source =
        t.source.past (t.rest.takeWhile accepts) (t.rest.dropWhile accepts) ∧
      (t.gatherWhile accepts).2.gathered =
        t.gathered ++ Rune.encodeAll (t.rest.takeWhile accepts) := by
  induction runes : t.rest generalizing t with
  | nil =>
    have ended : t.gatherWhile accepts = (t.broken, t.atEnd) := by
      rw [gatherWhile, read_nil runes]
      cases t.broken <;> rfl
    rw [ended]
    refine ⟨(if_pos rfl).symm, ?_, (List.append_nil _).symm⟩
    simp [source, Source.past, runes, Pos.afterAll, atEnd]
  | cons r rest ih =>
    by_cases accepted : accepts r
    · have on : t.gatherWhile accepts = ((t.took r rest).gather r).gatherWhile accepts := by
        rw [gatherWhile, read_cons runes]
        exact if_pos accepted
      obtain ⟨failed, source, gathered⟩ := ih ((t.took r rest).gather r) rfl
      rw [on, List.takeWhile_cons_of_pos accepted, List.dropWhile_cons_of_pos accepted]
      refine ⟨failed, source, gathered.trans ?_⟩
      exact List.append_assoc ..
    · have stay : t.gatherWhile accepts = (none, (t.took r rest).unread) := by
        rw [gatherWhile, read_cons runes]
        exact if_neg accepted
      rw [stay, List.takeWhile_cons_of_neg accepted, List.dropWhile_cons_of_neg accepted]
      refine ⟨(if_neg (List.cons_ne_nil r rest)).symm, ?_, ?_⟩
      · rw [source_unread runes]
        simp [source, Source.past, runes, Pos.afterAll]
      · exact (List.append_nil _).symm

end Loops

/-! ## The same tokens -/

end RuneReader

/-- What a result is without the bookkeeping of the reader. -/
def RuneScan.scan (result : RuneScan) : Scan :=
  ⟨result.token, result.failure, result.reader.source⟩

namespace RuneReader

section Same

variable {s : Source} {t : RuneReader} {span rest : List Rune}

theorem scan_found {kind : Kind} {lexeme : Text} (here : t.source = s.past span rest) :
    (t.found s.pos kind lexeme).scan = s.accept kind lexeme span rest :=
  congrArg (Scan.mk _ _) here

theorem scan_stop {failure : Failure} (here : t.source = s.past span rest) :
    (t.stop s.pos failure).scan = s.stop failure span rest :=
  congrArg (fun source : Source => Scan.mk _ _ { source with failed := some failure }) here

theorem scan_reject {problem : Problem} {at_ : Pos} (here : t.source = s.past span rest) :
    (t.reject s.pos problem at_).scan = s.reject problem at_ span rest := by
  have file : t.file = s.file := congrArg Source.file here
  rw [reject, file]
  exact scan_stop here

theorem scan_interrupt {cause : Failure} (here : t.source = s.past span []) :
    (t.interrupt s.pos cause).scan = s.interrupt cause span := by
  have file : t.file = s.file := congrArg Source.file here
  rw [interrupt, file]
  exact scan_stop here

/-- A loop that may have come to a broken end leaves the same doubt as its span. -/
theorem scan_resume {loop : Option Failure × RuneReader} {goOn : RuneReader → RuneScan}
    {result : Scan} (failed : loop.1 = s.doubt rest) (here : loop.2.source = s.past span rest)
    (same : (goOn loop.2).scan = result) :
    (resume s.pos loop goOn).scan = s.settle span rest result := by
  unfold resume
  rw [failed]
  cases rest with
  | nil =>
    rw [show s.doubt [] = s.broken from if_pos rfl]
    unfold Source.settle
    cases s.broken with
    | none => exact same
    | some cause => exact scan_interrupt here
  | cons r rest => exact same

theorem past_past (s : Source) (span more rest rest' : List Rune) :
    (s.past span rest).past more rest' = s.past (span ++ more) rest' := by
  simp [Source.past, Pos.afterAll]

/-- What a loop over accepted runes does to a source of which `span` has been read. -/
theorem word_eq (accepts : Rune → Bool) (here : t.source = s.past span t.rest) :
    (t.word accepts).1 = s.doubt (t.rest.dropWhile accepts) ∧
      (t.word accepts).2.source =
        s.past (span ++ t.rest.takeWhile accepts) (t.rest.dropWhile accepts) ∧
      (t.word accepts).2.gathered = Rune.encodeAll (t.rest.takeWhile accepts) := by
  obtain ⟨failed, source, gathered⟩ := gatherWhile_eq accepts t.cleared
  refine ⟨failed.trans ?_, source.trans ?_, gathered⟩
  · change t.source.doubt (t.rest.dropWhile accepts) = _
    rw [here]
    rfl
  · change t.source.past (t.rest.takeWhile accepts) (t.rest.dropWhile accepts) = _
    rw [here, past_past]

theorem scan_keyword (here : t.source = s.past [.char '@'] t.rest) :
    (t.keyword s.pos).scan = s.keyword t.rest := by
  obtain ⟨failed, source, gathered⟩ := word_eq Rune.inSigil here
  refine scan_resume failed source ?_
  have spelled : "@" ++ (t.word Rune.inSigil).2.gathered =
      Rune.encodeAll (.char '@' :: t.rest.takeWhile Rune.inSigil) := by
    rw [gathered]
    rfl
  simp only [spelled]
  cases Kind.ofSigil? (Rune.encodeAll (.char '@' :: t.rest.takeWhile Rune.inSigil)) with
  | some kind => exact scan_found source
  | none => exact scan_reject source

theorem scan_name (here : t.source = s) : (t.name s.pos).scan = s.word := by
  have rest : t.rest = s.rest := congrArg Source.rest here
  have unread : t.source = s.past [] t.rest := by
    rw [here, rest]
    rfl
  obtain ⟨failed, source, gathered⟩ := word_eq Rune.inName unread
  rw [rest] at failed source gathered
  refine scan_resume failed source ?_
  rw [gathered]
  exact scan_found source

theorem source_took (here : t.source = s.past span t.rest) (r : Rune) :
    (t.took r rest).source = s.past (span ++ [r]) rest := by
  have read : (t.took r rest).source = t.source.past [r] rest := rfl
  rw [read, here, past_past]

theorem scan_colons (here : t.source = s.past [.char ':'] t.rest) :
    (t.colons s.pos).scan = s.colons t.rest := by
  unfold colons
  cases runes : t.rest with
  | nil =>
    have broken : t.broken = s.broken := congrArg Source.broken here
    rw [runes] at here
    rw [read_nil runes, broken]
    unfold Source.colons Source.settle
    cases s.broken with
    | none => exact scan_found here
    | some cause => exact scan_interrupt here
  | cons r rest =>
    rw [read_cons runes]
    by_cases second : r = .char ':'
    · subst second
      exact scan_found (source_took here _)
    · have unread : (t.took r rest).unread.source = s.past [.char ':'] (r :: rest) := by
        rw [source_unread runes, here, runes]
      have single : s.colons (r :: rest) = s.accept .colon ":" [.char ':'] (r :: rest) := by
        rw [Source.colons]
        · exact Source.settle_of_sure (.inr (List.cons_ne_nil r rest))
        · rintro after whole
          exact second (List.cons.inj whole).1
      rw [single]
      simp only [second, if_false]
      exact scan_found unread

theorem scan_arrow (here : t.source = s.past [.char '='] t.rest) :
    (t.arrow s.pos).scan = s.arrow t.rest := by
  unfold arrow
  cases runes : t.rest with
  | nil =>
    rw [runes] at here
    rw [read_nil runes]
    cases t.broken with
    | none => exact scan_reject here
    | some cause => exact scan_reject here
  | cons r rest =>
    rw [read_cons runes]
    by_cases bracket : r = .char '>'
    · subst bracket
      exact scan_found (source_took here _)
    · rw [Source.arrow_of_ne bracket]
      simp only [bracket, if_false]
      exact scan_reject (source_took here r)

/-- Only a stray byte looks like the character that stands in for it and takes one byte. -/
theorem seen_and_width_iff (r : Rune) :
    r.seen = '�' ∧ r.encode.length = 1 ↔ ∃ b, r = .stray b := by
  cases r with
  | stray b => exact ⟨fun _ => ⟨b, rfl⟩, fun _ => ⟨rfl, rfl⟩⟩
  | char c =>
    refine ⟨?_, fun ⟨b, same⟩ => by cases same⟩
    rintro ⟨rfl, one⟩
    exact absurd one (by decide)

theorem stringFrom_inside (start : Pos) (inside : List Rune) {tail : List Rune}
    (runes : t.rest = inside ++ tail) (all : ∀ r ∈ inside, r.inString) :
    ∃ last : RuneReader, t.stringFrom start = last.stringFrom start ∧ last.rest = tail ∧
      last.source = t.source.past inside tail ∧
      last.gathered = t.gathered ++ Rune.encodeAll inside := by
  induction inside generalizing t with
  | nil =>
    refine ⟨t, rfl, runes, ?_, (List.append_nil _).symm⟩
    rw [List.nil_append] at runes
    rw [← runes]
    rfl
  | cons r inside ih =>
    obtain ⟨first, others⟩ := List.forall_mem_cons.mp all
    have on : t.stringFrom start = ((t.took r (inside ++ tail)).gather r).stringFrom start := by
      rw [stringFrom, read_cons runes]
      refine (if_neg ?_).trans (if_neg ?_)
      · rintro rfl
        exact absurd first (by decide)
      · intro stray
        obtain ⟨b, rfl⟩ := (seen_and_width_iff r).mp stray
        cases first
    obtain ⟨last, same, left, source, gathered⟩ :=
      ih (t := (t.took r (inside ++ tail)).gather r) rfl others
    refine ⟨last, on.trans same, left, source, gathered.trans ?_⟩
    exact List.append_assoc ..

theorem stringFrom_quote {start : Pos} (front : t.rest = .char '"' :: rest) :
    t.stringFrom start = (t.took (.char '"') rest).found start .string t.gathered := by
  rw [stringFrom, read_cons front]
  exact if_pos rfl

theorem stringFrom_stray {start : Pos} {b : UInt8} (front : t.rest = .stray b :: rest) :
    t.stringFrom start = (t.took (.stray b) rest).reject start .strayByteInString t.pos := by
  rw [stringFrom, read_cons front]
  refine (if_neg ?_).trans (if_pos ⟨rfl, rfl⟩)
  intro same
  cases same

theorem scan_string (here : t.source = s.past [.char '"'] t.rest) :
    (t.string s.pos).scan = s.string t.rest := by
  have stops := Source.run_maximal Rune.inString t.rest
  obtain ⟨last, same, left, source, gathered⟩ :=
    stringFrom_inside (t := t.cleared) s.pos (t.rest.takeWhile Rune.inString)
      List.takeWhile_append_dropWhile.symm fun x => List.mem_takeWhile_imp
  have left : last.rest = t.rest.dropWhile Rune.inString := left
  have gathered : last.gathered = Rune.encodeAll (t.rest.takeWhile Rune.inString) := gathered
  have there : last.source = s.past (.char '"' :: t.rest.takeWhile Rune.inString) last.rest := by
    rw [left]
    refine source.trans ?_
    change t.source.past _ _ = _
    rw [here, past_past]
    rfl
  rw [string, same, Source.string]
  cases runes : t.rest.dropWhile Rune.inString with
  | nil =>
    have broken : last.broken = s.broken := congrArg Source.broken there
    rw [left, runes] at there
    rw [stringFrom, read_nil (left.trans runes), broken]
    unfold Source.settle
    cases s.broken with
    | none => exact scan_reject there
    | some cause => exact scan_interrupt there
  | cons r after =>
    have front := left.trans runes
    cases r with
    | char c =>
      rw [runes] at stops
      obtain rfl : c = '"' := by simpa [Rune.inString] using stops
      rw [stringFrom_quote front, gathered]
      exact scan_found (source_took there _)
    | stray b =>
      have before : last.pos = s.pos.afterAll (.char '"' :: t.rest.takeWhile Rune.inString) :=
        congrArg Source.pos there
      rw [stringFrom_stray front, before]
      exact scan_reject (source_took there _)

theorem scan_token (t : RuneReader) : t.token.scan = t.source.token := by
  unfold token
  cases runes : t.rest with
  | nil =>
    have here : t.atEnd.source = t.source.past [] [] := by
      simp [atEnd, source, Source.past, runes, Pos.afterAll]
    rw [read_nil runes]
    cases whole : t.broken with
    | none =>
      have ended : t.source.token = t.source.accept .endOfInput [] [] [] := by
        simp [Source.token, source, runes, whole]
      rw [ended]
      exact scan_found here
    | some cause =>
      have cut : t.source.token = t.source.interrupt cause [] := by
        simp [Source.token, source, runes, whole]
      rw [cut]
      exact scan_interrupt here
  | cons r rest =>
    have here : (t.took r rest).source = t.source.past [r] rest := rfl
    rw [read_cons runes, Source.token_cons runes]
    simp only
    split
    · next sigil =>
      subst sigil
      exact scan_keyword here
    split
    · next quote =>
      subst quote
      exact scan_string here
    split
    · exact scan_name (source_unread runes)
    split
    · next colon =>
      subst colon
      exact scan_colons here
    split
    · next equals =>
      subst equals
      exact scan_arrow here
    cases r.mark? with
    | some kind => exact scan_found here
    | none => exact scan_reject here

theorem settle_token (s : Source) : s.settle [] s.rest s.token = s.token := by
  unfold Source.settle
  split
  · next nothing broken => simp [Source.token, nothing, broken]
  · rfl

end Same

/-- Reading rune by rune gives the same tokens and failures, and leaves the same source. -/
theorem scan_next (t : RuneReader) : t.next.scan = t.source.next := by
  unfold next
  cases fresh : t.failed with
  | some failure =>
    have again : t.source.next = ⟨⟨.endOfInput, [], t.pos⟩, some failure, t.source⟩ := by
      simp [Source.next, source, fresh]
    rw [again]
    rfl
  | none =>
    have trimmed : t.source.next = t.source.trimmed.token := by simp [Source.next, source, fresh]
    obtain ⟨failed, source⟩ := skip_eq t
    have pos : t.skip.2.pos = t.source.trimmed.pos := congrArg Source.pos source
    have same : t.skip.2.token.scan = t.source.trimmed.token := by rw [scan_token, source]
    rw [trimmed, ← settle_token t.source.trimmed, pos]
    exact scan_resume failed source same

theorem token_next (t : RuneReader) : t.next.token = t.source.next.token :=
  congrArg Scan.token (scan_next t)

theorem failure_next (t : RuneReader) : t.next.failure = t.source.next.failure :=
  congrArg Scan.failure (scan_next t)

theorem source_next (t : RuneReader) : t.next.reader.source = t.source.next.source :=
  congrArg Scan.source (scan_next t)

/-! ## Whole sources -/

/-- What a call gives after so many others. -/
def call (t : RuneReader) : Nat → RuneScan
  | 0 => t.next
  | n + 1 => t.next.reader.call n

/-- Reads all tokens, with the end unless there was a failure. -/
def all (t : RuneReader) : List Token × Option Failure :=
  match _failed : t.next.failure with
  | some failure => ([], some failure)
  | none =>
    if _ended : t.next.token.kind = .endOfInput then ([t.next.token], none)
    else
      let following := t.next.reader.all
      (t.next.token :: following.1, following.2)
termination_by t.rest.length
decreasing_by
  have rest : t.next.reader.rest = t.source.next.source.rest := congrArg Source.rest t.source_next
  rw [rest]
  rw [failure_next] at _failed
  rw [token_next] at _ended
  exact Source.next_length_lt _failed _ended

theorem all_cons (ts : Source.Tokens) (t : Token) :
    Source.Tokens.all { ts with list := t :: ts.list } = t :: ts.all := by
  unfold Source.Tokens.all
  cases ts.failure <;> rfl

/-- All tokens are read alike, up to the same end or failure. -/
theorem all_eq (t : RuneReader) : t.all = (t.source.tokens.all, t.source.tokens.failure) := by
  fun_induction all t with
  | case1 t failure failed =>
    rw [failure_next] at failed
    rw [Source.tokens_of_failed failed]
    rfl
  | case2 t ok ended =>
    rw [failure_next] at ok
    rw [token_next] at ended ⊢
    rw [Source.tokens_of_ended ok ended]
    rfl
  | case3 t ok more following ih =>
    rw [failure_next] at ok
    rw [token_next] at more ⊢
    rw [Source.tokens_of_more ok more, all_cons, ← source_next]
    exact congrArg (fun f : List Token × Option Failure => (t.source.next.token :: f.1, f.2)) ih

end RuneReader

end Gamebook
