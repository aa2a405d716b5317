import Gamebook.Failure
import Gamebook.Text.Blank
import Gamebook.Text.Digit
import Gamebook.Text.Letter

/-! # Sources and their tokens

A source is read token by token. Blanks and comments, from `#` to the end of the line, stand
between tokens. The first failure is final: reading on gives the same failure again.
-/

namespace Gamebook

namespace Rune

/-- Whether a rune is a letter. -/
def isLetter : Rune → Bool
  | .char c => Text.isLetter c
  | .stray _ => false

/-- Whether a rune is a decimal digit. -/
def isDigit : Rune → Bool
  | .char c => Text.isDigit c
  | .stray _ => false

/-- Whether a rune can stand in a word after a sigil. -/
def inSigil (r : Rune) : Bool :=
  r.isLetter || r = .char '-'

/-- Whether a name can start with a rune. -/
def startsName (r : Rune) : Bool :=
  r.isLetter || r.isDigit

/-- Whether a rune can stand in a name. -/
def inName (r : Rune) : Bool :=
  r.isLetter || r.isDigit || r = .char '-' || r = .char '_'

/-- Whether a rune can stand in a string: every character but the double quote. -/
def inString : Rune → Bool
  | .char c => c ≠ '"'
  | .stray _ => false

/-- The kind of token that a rune is by itself. -/
def mark? (r : Rune) : Option Kind :=
  if r = .char ';' then some .semicolon
  else if r = .char '\x7b' then some .leftBrace
  else if r = .char '\x7d' then some .rightBrace
  else if r = .char '(' then some .leftParen
  else if r = .char ')' then some .rightParen
  else if r = .char ',' then some .comma
  else if r = .char '?' then some .question
  else none

end Rune

/-- A source, read up to a position. -/
structure Source where
  /-- The name of the file, for messages. -/
  file : Text
  /-- The runes that are still to be read. -/
  rest : List Rune
  /-- The position of the first of them. -/
  pos : Pos := .start
  /-- The failure that stands in place of the end of the input, if reading fails there. -/
  broken : Option Failure := none
  /-- The failure that ended the reading of tokens. -/
  failed : Option Failure := none
  deriving DecidableEq, Repr, Inhabited

/-- The result of reading one token. With a failure comes a token that marks the end. -/
structure Scan where
  token : Token
  failure : Option Failure
  source : Source
  deriving DecidableEq, Repr, Inhabited

namespace Source

/-- A source that has not been read yet. -/
def ofText (file text : Text) (broken : Option Failure := none) : Source :=
  { file, rest := Rune.decode text, broken }

/-- What follows the blanks and comments at the front, and the position there. -/
def skipTrivia : (inComment : Bool) → Pos → List Rune → Pos × List Rune
  | _, p, [] => (p, [])
  | true, p, r :: rest => skipTrivia (r ≠ .char '\n') (p.after r) rest
  | false, p, r :: rest =>
    if r.isBlank then skipTrivia false (p.after r) rest
    else if r = .char '#' then skipTrivia true (p.after r) rest
    else (p, r :: rest)

/-- The source without the blanks and comments at its front. -/
def trimmed (s : Source) : Source :=
  let (pos, rest) := skipTrivia false s.pos s.rest
  { s with pos, rest }

/-- A token that covers `span`, which `rest` follows. -/
def accept (s : Source) (kind : Kind) (lexeme : Text) (span rest : List Rune) : Scan :=
  { token := ⟨kind, lexeme, s.pos⟩
    failure := none
    source := { s with rest, pos := s.pos.afterAll span } }

/-- The end of reading by a failure, which was met after `span`. -/
def stop (s : Source) (failure : Failure) (span rest : List Rune) : Scan :=
  { token := ⟨.endOfInput, [], s.pos⟩
    failure := some failure
    source := { s with rest, pos := s.pos.afterAll span, failed := some failure } }

/-- The end of reading by a problem at a position of the source. -/
def reject (s : Source) (problem : Problem) (at_ : Pos) (span rest : List Rune) : Scan :=
  s.stop (.ofReport { problem, place := .ofPos s.file at_ }) span rest

/-- The end of reading because the source could not be read on. -/
def interrupt (s : Source) (cause : Failure) (span : List Rune) : Scan :=
  s.stop (.because (.brokenSource s.file) cause) span []

/-- The result when a token may go on past `span` and `rest` follows: at a broken end it is not
    known whether it does. -/
def settle (s : Source) (span rest : List Rune) (result : Scan) : Scan :=
  match rest, s.broken with
  | [], some cause => s.interrupt cause span
  | _, _ => result

/-- Reads a keyword whose sigil stands before `rest`. -/
def keyword (s : Source) (rest : List Rune) : Scan :=
  let span := .char '@' :: rest.takeWhile Rune.inSigil
  let after := rest.dropWhile Rune.inSigil
  let word := Rune.encodeAll span
  s.settle span after <|
    match Kind.ofSigil? word with
    | some kind => s.accept kind word span after
    | none => s.reject (.unknownKeyword word) s.pos span after

/-- Reads a string whose opening quote stands before `rest`. Every character up to the closing
    quote belongs to it, line ends too. -/
def string (s : Source) (rest : List Rune) : Scan :=
  let inside := rest.takeWhile Rune.inString
  let span := .char '"' :: inside
  match rest.dropWhile Rune.inString with
  | .char c :: after => s.accept .string (Rune.encodeAll inside) (span ++ [.char c]) after
  | .stray b :: after =>
    s.reject .strayByteInString (s.pos.afterAll span) (span ++ [.stray b]) after
  | [] => s.settle span [] (s.reject .unterminatedString s.pos span [])

/-- Reads a name or a reserved word. -/
def word (s : Source) : Scan :=
  let span := s.rest.takeWhile Rune.inName
  let after := s.rest.dropWhile Rune.inName
  let lexeme := Rune.encodeAll span
  s.settle span after (s.accept (Kind.ofWord lexeme) lexeme span after)

/-- Reads one colon or two, the first of which stands before `rest`. -/
def colons (s : Source) (rest : List Rune) : Scan :=
  match rest with
  | .char ':' :: after => s.accept .scope "::" [.char ':', .char ':'] after
  | _ => s.settle [.char ':'] rest (s.accept .colon ":" [.char ':'] rest)

/-- Reads an arrow whose equals sign stands before `rest`. -/
def arrow (s : Source) (rest : List Rune) : Scan :=
  match rest with
  | .char '>' :: after => s.accept .arrow "=>" [.char '=', .char '>'] after
  | r :: after => s.reject .loneEquals s.pos [.char '=', r] after
  | [] => s.reject .loneEquals s.pos [.char '='] []

/-- Reads the token that starts at the front of a source without trivia there. -/
def token (s : Source) : Scan :=
  match s.rest with
  | [] =>
    match s.broken with
    | some cause => s.interrupt cause []
    | none => s.accept .endOfInput [] [] []
  | r :: rest =>
    if r = .char '@' then s.keyword rest
    else if r = .char '"' then s.string rest
    else if r.startsName then s.word
    else if r = .char ':' then s.colons rest
    else if r = .char '=' then s.arrow rest
    else
      match r.mark? with
      | some kind => s.accept kind kind.text [r] rest
      | none => s.reject (.unexpectedRune r) s.pos [r] rest

/-- Reads the next token. After the end of the input it is read again and again, and so is a
    failure. -/
def next (s : Source) : Scan :=
  match s.failed with
  | some failure => ⟨⟨.endOfInput, [], s.pos⟩, some failure, s⟩
  | none => s.trimmed.token

theorem skipTrivia_length_le (inComment : Bool) (p : Pos) (rs : List Rune) :
    (skipTrivia inComment p rs).2.length ≤ rs.length := by
  induction rs generalizing inComment p with
  | nil => simp [skipTrivia]
  | cons r rest ih =>
    cases inComment with
    | true => exact Nat.le_succ_of_le (ih ..)
    | false =>
      simp only [skipTrivia]
      split
      · exact Nat.le_succ_of_le (ih ..)
      · split
        · exact Nat.le_succ_of_le (ih ..)
        · exact Nat.le_refl _

theorem trimmed_length_le (s : Source) : s.trimmed.rest.length ≤ s.rest.length :=
  skipTrivia_length_le false s.pos s.rest

theorem length_dropWhile_le (accepts : Rune → Bool) (rs : List Rune) :
    (rs.dropWhile accepts).length ≤ rs.length :=
  (List.dropWhile_suffix accepts).length_le

/-- That a result is a failure, the end, or leaves less to read than the source. -/
def Advances (s : Source) (result : Scan) : Prop :=
  result.failure = none → result.token.kind ≠ .endOfInput →
    result.source.rest.length < s.rest.length

theorem advances_stop {s : Source} {failure : Failure} {span rest : List Rune} :
    s.Advances (s.stop failure span rest) := by
  intro ok
  simp [stop] at ok

theorem advances_accept {s : Source} {kind : Kind} {lexeme : Text} {span rest : List Rune}
    (less : rest.length < s.rest.length) : s.Advances (s.accept kind lexeme span rest) :=
  fun _ _ => less

theorem advances_settle {s : Source} {span rest : List Rune} {result : Scan}
    (step : s.Advances result) : s.Advances (s.settle span rest result) := by
  unfold settle
  split
  · exact advances_stop
  · exact step

theorem advances_keyword {s : Source} {r : Rune} {rest : List Rune} (front : s.rest = r :: rest) :
    s.Advances (s.keyword rest) := by
  refine advances_settle ?_
  split
  · refine advances_accept ?_
    rw [front]
    exact Nat.lt_succ_of_le (length_dropWhile_le ..)
  · exact advances_stop

theorem advances_string {s : Source} {r : Rune} {rest : List Rune} (front : s.rest = r :: rest) :
    s.Advances (s.string rest) := by
  have shorter := length_dropWhile_le Rune.inString rest
  unfold string
  split
  · next after eq =>
    rw [eq] at shorter
    refine advances_accept ?_
    rw [front]
    simp only [List.length_cons] at shorter ⊢
    omega
  · exact advances_stop
  · exact advances_settle (advances_stop)

theorem inName_of_startsName {r : Rune} (starts : r.startsName = true) : r.inName = true := by
  simp only [Rune.startsName, Bool.or_eq_true] at starts
  simp only [Rune.inName, Bool.or_eq_true]
  exact .inl (.inl starts)

theorem advances_word {s : Source} {r : Rune} {rest : List Rune} (front : s.rest = r :: rest)
    (starts : r.startsName = true) : s.Advances s.word := by
  refine advances_settle (advances_accept ?_)
  rw [front, List.dropWhile_cons, if_pos (inName_of_startsName starts)]
  exact Nat.lt_succ_of_le (length_dropWhile_le ..)

theorem advances_colons {s : Source} {r : Rune} {rest : List Rune} (front : s.rest = r :: rest) :
    s.Advances (s.colons rest) := by
  unfold colons
  split
  · refine advances_accept ?_
    rw [front]
    simp only [List.length_cons]
    omega
  · refine advances_settle (advances_accept ?_)
    rw [front]
    exact Nat.lt_succ_self _

theorem advances_arrow {s : Source} {r : Rune} {rest : List Rune} (front : s.rest = r :: rest) :
    s.Advances (s.arrow rest) := by
  unfold arrow
  split
  · refine advances_accept ?_
    rw [front]
    simp only [List.length_cons]
    omega
  · exact advances_stop
  · exact advances_stop

theorem advances_token (s : Source) : s.Advances s.token := by
  unfold token
  split
  · split
    · exact advances_stop
    · intro _ more
      exact absurd rfl more
  · next r rest front =>
    split
    · exact advances_keyword front
    split
    · exact advances_string front
    split
    · next starts => exact advances_word front starts
    split
    · exact advances_colons front
    split
    · exact advances_arrow front
    split
    · refine advances_accept ?_
      rw [front]
      exact Nat.lt_succ_self _
    · exact advances_stop

/-- Reading a token other than the end leaves less to read. -/
theorem next_length_lt {s : Source} (ok : s.next.failure = none)
    (more : s.next.token.kind ≠ .endOfInput) :
    s.next.source.rest.length < s.rest.length := by
  unfold next at ok more ⊢
  split at ok
  · simp at ok
  · next fresh =>
    simp only [fresh] at more ⊢
    exact Nat.lt_of_lt_of_le (advances_token s.trimmed ok more) (trimmed_length_le s)

/-- The tokens of a source up to its end or the first failure. -/
structure Tokens where
  /-- The tokens before the end. -/
  list : List Token
  /-- The token that marks the end. -/
  last : Token
  /-- The failure that ended the reading. -/
  failure : Option Failure
  deriving DecidableEq, Repr, Inhabited

/-- Reads a source to its end. -/
def tokens (s : Source) : Tokens :=
  match _failed : s.next.failure with
  | some failure => ⟨[], s.next.token, some failure⟩
  | none =>
    if _more : s.next.token.kind = .endOfInput then ⟨[], s.next.token, none⟩
    else
      let following := s.next.source.tokens
      { following with list := s.next.token :: following.list }
termination_by s.rest.length
decreasing_by exact next_length_lt _failed _more

/-- The tokens that were read before any failure, with the end where there was none. -/
def Tokens.all (ts : Tokens) : List Token :=
  match ts.failure with
  | some _ => ts.list
  | none => ts.list ++ [ts.last]

end Source

end Gamebook
