import Gamebook.Markup.Scalar

/-! # Reading tokens

Blocks have no brackets, so they are found by columns: a deeper column opens a block, and a column
further out closes it. A key shows only at the colon after it, on the same line, so wherever a key
may start, its place among the tokens is remembered until the colon comes.
-/

namespace Gamebook.Markup

/-- A place at which a key may have started. -/
structure Candidate where
  /-- Whether there must be a key: it stands where the other keys of its block stand. -/
  required : Bool
  /-- How many tokens come before it. -/
  number : Nat
  line : Nat
  column : Nat
  index : Nat
  deriving DecidableEq, Repr, Inhabited

/-- A reader of tokens. -/
structure Scanner where
  cursor : Cursor
  /-- How many flows are open. -/
  flow : Nat := 0
  /-- The column of the innermost block; there is one column to the left of all others. -/
  indent : Int := -1
  /-- The columns of the blocks around it. -/
  indents : List Int := []
  /-- Whether a key may start here. -/
  keyAllowed : Bool := true
  /-- Where keys may have started, the innermost flow first. -/
  candidates : List (Option Candidate) := [none]
  tokens : List Token := []
  deriving DecidableEq, Repr, Inhabited

/-- Tokens, and why there are no more of them. -/
structure Scanned where
  tokens : List Token
  fault : Option Fault := none
  deriving DecidableEq, Repr, Inhabited

namespace Scanner

/-- How far after its start a key may end. -/
def longestKey : Nat := 1024

/-- The reader with one more token. -/
def emit (kind : TokenKind) (line : Nat) (s : Scanner) : Scanner :=
  { s with tokens := s.tokens ++ [⟨kind, line⟩] }

/-- The reader with a token after so many others. -/
def insert (number : Nat) (kind : TokenKind) (line : Nat) (s : Scanner) : Scanner :=
  { s with tokens := s.tokens.take number ++ ⟨kind, line⟩ :: s.tokens.drop number }

/-- A token of some characters at the cursor. -/
def symbol (kind : TokenKind) (width : Nat) (s : Scanner) : Scanner :=
  { s.emit kind s.cursor.line with cursor := s.cursor.skip width }

/-- Closes the blocks of columns further in than the given one. -/
def unroll (column : Int) : (fuel : Nat) → Scanner → Scanner
  | 0, s => s
  | fuel + 1, s =>
    if 0 < s.flow ∨ s.indent ≤ column then s
    else
      unroll column fuel
        { s.emit .blockEnd s.cursor.line with
          indent := s.indents.headD (-1), indents := s.indents.tail }

/-- Opens a block at a column further in than the innermost one, with a token after so many
    others. -/
def roll (column number : Nat) (kind : TokenKind) (line : Nat) (s : Scanner) : Scanner :=
  if 0 < s.flow ∨ (column : Int) ≤ s.indent then s
  else { s.insert number kind line with indent := column, indents := s.indent :: s.indents }

/-- Gives up the place at which a key may have started in the innermost flow. -/
def dropCandidate (s : Scanner) : Except Fault Scanner :=
  match s.candidates with
  | some k :: rest =>
    if k.required then .error .noColon else .ok { s with candidates := none :: rest }
  | _ => .ok s

/-- Remembers the cursor as a place at which a key may start. -/
def saveCandidate (s : Scanner) : Except Fault Scanner :=
  if s.keyAllowed then do
    let c := s.cursor
    let required := s.flow = 0 ∧ s.indent = c.column
    let s ← s.dropCandidate
    return { s with
      candidates := some ⟨required, s.tokens.length, c.line, c.column, c.index⟩ :: s.candidates.tail }
  else .ok s

/-- Whether a key may reach from its start to the cursor. -/
def reaches (s : Scanner) (k : Candidate) : Bool :=
  k.line = s.cursor.line && s.cursor.index ≤ k.index + longestKey

/-- The place at which the key before the cursor started. -/
def candidate? (s : Scanner) : Except Fault (Option Candidate) :=
  match s.candidates with
  | some k :: _ =>
    if s.reaches k then .ok (some k) else if k.required then .error .noColon else .ok none
  | _ => .ok none

/-- The place of the next token, after blanks and comments. Tabs are blanks only where no key may
    start. -/
def skipBlanks : (fuel : Nat) → Scanner → Scanner
  | 0, s => s
  | fuel + 1, s =>
    match s.cursor.rest with
    | [] => s
    | ch :: rest =>
      if ch = ' ' ∨ (ch = '\t' ∧ (0 < s.flow ∨ ¬ s.keyAllowed)) then
        skipBlanks fuel { s with cursor := s.cursor.skip 1 }
      else if ch = '#' then
        let comment := (ch :: rest).takeWhile fun ch => !isBreak ch
        skipBlanks fuel { s with cursor := s.cursor.skip comment.length }
      else if isBreak ch then
        skipBlanks fuel
          { s with cursor := s.cursor.skipBreak.2, keyAllowed := s.keyAllowed || s.flow = 0 }
      else s

/-- A scalar between quotes. -/
def quotedScalar (quote : Char) (s : Scanner) : Except Fault Scanner := do
  let s ← s.saveCandidate
  let start := s.cursor.skip 1
  let (found, cursor) ← readQuoted quote (start.rest.length + 1) [] start
  return { s.emit (.scalar true (found.flatMap String.utf8EncodeChar)) s.cursor.line with
    cursor, keyAllowed := false }

/-- A plain scalar. -/
def plainScalar (s : Scanner) : Except Fault Scanner := do
  let s ← s.saveCandidate
  let indent := (s.indent + 1).toNat
  let (found, lineEnded, cursor) ←
    readPlain (0 < s.flow) indent (s.cursor.rest.length + 1) [] {} s.cursor
  return { s.emit (.scalar false (found.flatMap String.utf8EncodeChar)) s.cursor.line with
    cursor, keyAllowed := lineEnded }

/-- The start of a flow. -/
def flowStart (kind : TokenKind) (s : Scanner) : Except Fault Scanner := do
  let s ← s.saveCandidate
  return { s.symbol kind 1 with
    flow := s.flow + 1, candidates := none :: s.candidates, keyAllowed := true }

/-- The end of a flow. -/
def flowEnd (kind : TokenKind) (s : Scanner) : Except Fault Scanner := do
  let s ← s.dropCandidate
  let candidates := if 0 < s.flow then s.candidates.tail else s.candidates
  return { s.symbol kind 1 with flow := s.flow - 1, candidates, keyAllowed := false }

/-- A comma in a flow. -/
def flowComma (s : Scanner) : Except Fault Scanner := do
  let s ← s.dropCandidate
  return { s.symbol .comma 1 with keyAllowed := true }

/-- A dash before an item. -/
def blockItem (s : Scanner) : Except Fault Scanner := do
  if s.flow = 0 ∧ ¬ s.keyAllowed then .error .itemNotAllowed
  else
    let s := s.roll s.cursor.column s.tokens.length .blockSequence s.cursor.line
    let s ← s.dropCandidate
    return { s.symbol .item 1 with keyAllowed := true }

/-- A question mark before a key. -/
def explicitKey (s : Scanner) : Except Fault Scanner := do
  if s.flow = 0 ∧ ¬ s.keyAllowed then .error .keyNotAllowed
  else
    let s := s.roll s.cursor.column s.tokens.length .blockMapping s.cursor.line
    let s ← s.dropCandidate
    return { s.symbol .key 1 with keyAllowed := s.flow = 0 }

/-- A colon before a value. -/
def colon (s : Scanner) : Except Fault Scanner := do
  match ← s.candidate? with
  | some k =>
    let s := s.insert k.number .key k.line
    let s := s.roll k.column k.number .blockMapping k.line
    return { s.symbol .value 1 with candidates := none :: s.candidates.tail, keyAllowed := false }
  | none =>
    let s := { s with candidates := none :: s.candidates.tail }
    if s.flow = 0 ∧ ¬ s.keyAllowed then .error .valueNotAllowed
    else
      let s := s.roll s.cursor.column s.tokens.length .blockMapping s.cursor.line
      return { s.symbol .value 1 with keyAllowed := s.flow = 0 }

/-- The mark of the start or the end of a document. -/
def documentMark (kind : TokenKind) (s : Scanner) : Except Fault Scanner := do
  let s ← (s.unroll (-1) (s.indents.length + 1)).dropCandidate
  return { s.symbol kind 3 with keyAllowed := false }

/-- The end of the text. -/
def finish (s : Scanner) : Except Fault Scanner := do
  let s ← (s.unroll (-1) (s.indents.length + 1)).dropCandidate
  return { s.emit .streamEnd s.cursor.line with keyAllowed := false }

/-- The characters that cannot start a plain scalar. -/
def indicators : List Char :=
  "-?:,[]\x7b\x7d#&*!|>'\"%@\x60".toList

/-- Whether a plain scalar starts at the cursor. -/
def startsPlain (s : Scanner) (ch : Char) : Bool :=
  let c := s.cursor
  (!c.blankAt 0 && !indicators.contains ch) || (ch = '-' && !c.blankAt 1) ||
    (s.flow = 0 && (ch = '?' || ch = ':') && !c.blankAt 1)

/-- The next token. -/
def next (s : Scanner) : Except Fault Scanner :=
  let s := s.skipBlanks (s.cursor.rest.length + 1)
  let s := s.unroll s.cursor.column (s.indents.length + 1)
  let c := s.cursor
  match c.rest with
  | [] => s.finish
  | ch :: _ =>
    if c.column = 0 ∧ ch = '%' then .error .notSupported
    else if c.atMarker '-' then s.documentMark .documentStart
    else if c.atMarker '.' then s.documentMark .documentEnd
    else if ch = '[' then s.flowStart .flowSequence
    else if ch = '\x7b' then s.flowStart .flowMapping
    else if ch = ']' then s.flowEnd .flowSequenceEnd
    else if ch = '\x7d' then s.flowEnd .flowMappingEnd
    else if ch = ',' then s.flowComma
    else if ch = '-' ∧ c.blankAt 1 then s.blockItem
    else if ch = '?' ∧ (0 < s.flow ∨ c.blankAt 1) then s.explicitKey
    else if ch = ':' ∧ (0 < s.flow ∨ c.blankAt 1) then s.colon
    else if ch = '*' ∨ ch = '&' ∨ ch = '!' then .error .notSupported
    else if s.flow = 0 ∧ (ch = '|' ∨ ch = '>') then .error .notSupported
    else if ch = '\'' ∨ ch = '"' then s.quotedScalar ch
    else if s.startsPlain ch then s.plainScalar
    else .error .noSuchToken

/-- How many of the tokens are certain when the reading stops. A reader looks two tokens ahead, and
    does not pass a place at which a key may have started. -/
def certain (s : Scanner) : Nat :=
  let pending := s.candidates.filterMap fun
    | some k => if s.reaches k then some k.number else none
    | none => none
  pending.foldl Nat.min (s.tokens.length - 2)

/-- All tokens, up to the end of the text or to a fault. -/
def all : (fuel : Nat) → Scanner → Scanned
  | 0, s => { tokens := s.tokens }
  | fuel + 1, s =>
    match s.next with
    | .error fault => { tokens := s.tokens.take s.certain, fault := some fault }
    | .ok s =>
      if s.tokens.getLast?.any fun t => t.kind = .streamEnd then { tokens := s.tokens }
      else all fuel s

end Scanner

/-- The tokens of a text. -/
def Scanned.ofText (t : Text) : Scanned :=
  match chars? t with
  | none => { tokens := [], fault := some .notText }
  | some chars => Scanner.all (chars.length + 2) { cursor := { rest := chars } }

end Gamebook.Markup
