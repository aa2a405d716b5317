import Gamebook.Markup.Cursor
import Gamebook.Text.Numeral

/-! # Scalars

A scalar is plain or stands between quotes. Its line ends are folded: a single one counts as a space.
Between double quotes a backslash gives the characters after it another meaning. A plain scalar may
be taken for something else than a text: nothing, a truth value, a number or a date.
-/

namespace Gamebook.Markup

/-! ## Scalars between quotes -/

/-- What a letter after a backslash stands for. -/
def escapes : List (Char × Char) :=
  [('0', '\x00'), ('a', '\x07'), ('b', '\x08'), ('t', '\t'), ('\t', '\t'), ('n', '\n'),
   ('v', '\x0B'), ('f', '\x0C'), ('r', '\r'), ('e', '\x1B'), (' ', ' '), ('"', '"'), ('/', '/'),
   ('\'', '\''), ('\\', '\\'), ('N', '\u0085'), ('_', '\u00A0'), ('L', '\u2028'), ('P', '\u2029')]

/-- How many digits follow a letter after a backslash that announces a code. -/
def codeLengths : List (Char × Nat) :=
  [('x', 2), ('u', 4), ('U', 8)]

/-- The value of a hexadecimal digit. -/
def hexValue? (c : Char) : Option Nat :=
  if c.isDigit then some (c.toNat - '0'.toNat)
  else if 'a' ≤ c ∧ c ≤ 'f' then some (c.toNat - 'a'.toNat + 10)
  else if 'A' ≤ c ∧ c ≤ 'F' then some (c.toNat - 'A'.toNat + 10)
  else none

/-- The character whose code has the given digits. -/
def ofCode (digits : List Char) : Except Fault Char :=
  match digits.mapM hexValue? with
  | none => .error .badEscape
  | some values =>
    let code := values.foldl (fun code value => 16 * code + value) 0
    if code.isValidChar then .ok (Char.ofNat code) else .error .badEscape

/-- The character that an escape stands for, and the place after it. The cursor stands after the
    backslash. -/
def readEscape (c : Cursor) : Except Fault (Char × Cursor) :=
  match c.at? 0 with
  | none => .error .badEscape
  | some letter =>
    match escapes.lookup letter with
    | some ch => .ok (ch, c.skip 1)
    | none =>
      match codeLengths.lookup letter with
      | none => .error .badEscape
      | some n =>
        let digits := (c.rest.drop 1).take n
        if digits.length < n then .error .badEscape
        else (ofCode digits).map fun ch => (ch, c.skip (n + 1))

/-- The part of a scalar up to the next space, line end or closing quote, the place after it, and
    whether it ended with a line end after a backslash. -/
def readPart (quote : Char) : (fuel : Nat) → List Char → Cursor →
    Except Fault (List Char × Bool × Cursor)
  | 0, part, c => .ok (part, false, c)
  | fuel + 1, part, c =>
    match c.rest with
    | [] => .ok (part, false, c)
    | ch :: _ =>
      if isSpace ch ∨ isBreak ch then .ok (part, false, c)
      else if ch = quote then
        if quote = '\'' ∧ c.at? 1 = some '\'' then readPart quote fuel (part ++ ['\'']) (c.skip 2)
        else .ok (part, false, c)
      else if quote = '"' ∧ ch = '\\' then
        match c.at? 1 with
        | some next =>
          if isBreak next then .ok (part, true, (c.skip 1).skipBreak.2)
          else do
            let (escaped, c) ← readEscape (c.skip 1)
            readPart quote fuel (part ++ [escaped]) c
        | none => .error .badEscape
      else readPart quote fuel (part ++ [ch]) (c.skip 1)

/-- The rest of a scalar between quotes, after what was read before, and the place after the closing
    quote. -/
def readQuoted (quote : Char) : (fuel : Nat) → List Char → Cursor → Except Fault (List Char × Cursor)
  | 0, _, _ => .error .endInScalar
  | fuel + 1, found, c =>
    if c.atDocument then .error .markerInScalar
    else if c.rest.isEmpty then .error .endInScalar
    else do
      let (part, broken, c) ← readPart quote (c.rest.length + 1) [] c
      if c.starts quote then return (found ++ part, c.skip 1)
      else
        let start : Gap := if broken then { firstBreak := some [] } else {}
        let (gap, c) ← Gap.read 0 (c.rest.length + 1) start c
        readQuoted quote fuel (found ++ part ++ gap.folded) c

/-! ## Plain scalars -/

/-- Whether a plain scalar ends before the character at the cursor. -/
def endsPlain (inFlow : Bool) (c : Cursor) : Bool :=
  match c.at? 0 with
  | none => true
  | some ch =>
    c.blankAt 0 || (ch = ':' && c.blankAt 1) ||
      (inFlow && (ch = ',' || ch = '?' || ch = '[' || ch = ']' || ch = '\x7b' || ch = '\x7d'))

/-- The characters of a plain scalar up to a blank or to its end. -/
def readWord (inFlow : Bool) : (fuel : Nat) → List Char → Cursor → List Char × Cursor
  | 0, word, c => (word, c)
  | fuel + 1, word, c =>
    match c.rest with
    | [] => (word, c)
    | ch :: _ =>
      if endsPlain inFlow c then (word, c) else readWord inFlow fuel (word ++ [ch]) (c.skip 1)

/-- The rest of a plain scalar after what was read before and a gap, the place after it, and whether
    a line ended there. Outside of flows, a line that does not reach `indent` is no part of it. -/
def readPlain (inFlow : Bool) (indent : Nat) : (fuel : Nat) → List Char → Gap → Cursor →
    Except Fault (List Char × Bool × Cursor)
  | 0, found, gap, c => .ok (found, gap.firstBreak.isSome, c)
  | fuel + 1, found, gap, c =>
    if c.atDocument ∨ c.starts '#' then .ok (found, gap.firstBreak.isSome, c)
    else
      let (word, c) := readWord inFlow (c.rest.length + 1) [] c
      let found := if word.isEmpty then found else found ++ gap.folded ++ word
      let lineEnded := gap.firstBreak.isSome && word.isEmpty
      if c.rest.isEmpty ∨ ¬ c.blankAt 0 then .ok (found, lineEnded, c)
      else do
        let (gap, c) ← Gap.read indent (c.rest.length + 1) {} c
        if ¬ inFlow ∧ c.column < indent then .ok (found, gap.firstBreak.isSome, c)
        else readPlain inFlow indent fuel found gap c

/-! ## What plain scalars are taken for -/

/-- What a scalar is taken for. -/
inductive Tag where
  | null
  | bool
  | int
  | float
  | timestamp
  | str
  deriving DecidableEq, Repr, Inhabited

/-- The name of a tag. -/
def Tag.text : Tag → Text
  | .null => "!!null"
  | .bool => "!!bool"
  | .int => "!!int"
  | .float => "!!float"
  | .timestamp => "!!timestamp"
  | .str => "!!str"

/-- The scalars that are taken for something else by their spelling alone. -/
def spellings : List (Text × Tag) :=
  let spelled (tag : Tag) (words : List String) : List (Text × Tag) :=
    words.map fun word => (Text.ofString word, tag)
  spelled .null ["", "~", "null", "Null", "NULL"] ++
    spelled .bool ["true", "True", "TRUE", "false", "False", "FALSE"] ++
    spelled .float [".nan", ".NaN", ".NAN", ".inf", ".Inf", ".INF", "+.inf", "+.Inf", "+.INF",
      "-.inf", "-.Inf", "-.INF"]

/-- The digits at the front of a text, and what stands after them. -/
def cutDigits (t : Text) : Text × Text :=
  (t.takeWhile Text.isDecimal, t.dropWhile Text.isDecimal)

/-- A text without a sign at its front. -/
def dropSign : Text → Text
  | 0x2B :: rest => rest
  | 0x2D :: rest => rest
  | t => t

/-- Whether a text is nothing, or an exponent. -/
def isExponent : Text → Bool
  | [] => true
  | e :: rest =>
    let (digits, after) := cutDigits (dropSign rest)
    (e = 0x65 || e = 0x45) && !digits.isEmpty && after.isEmpty

/-- Whether a text is a decimal fraction: digits, a point, more digits and an exponent, of which a
    part may be missing. -/
def isFraction (t : Text) : Bool :=
  let (whole, rest) := cutDigits (dropSign t)
  match rest with
  | 0x2E :: rest =>
    let (part, rest) := cutDigits rest
    (!whole.isEmpty || !part.isEmpty) && isExponent rest
  | rest => !whole.isEmpty && isExponent rest

/-- Whether a text without its underscores is an integer. -/
def isInteger (t : Text) : Bool :=
  let marked (mark : Text) (base : Nat) : Bool :=
    let negative := Text.ofString "-" ++ mark
    (mark.isPrefixOf t && (Text.parseInt (some base) 64 (t.drop 2)).isOk) ||
      (negative.isPrefixOf t &&
        (Text.parseInt (some base) 64 (Text.ofString "-" ++ t.drop 3)).isOk)
  (Text.parseInt none 64 t).isOk || (Text.parseNat none 64 t).isOk || marked "0b" 2 || marked "0o" 8

/-- The number of days of a month. -/
def monthLength (year month : Nat) : Nat :=
  if month = 2 then
    if year % 4 = 0 ∧ (year % 100 ≠ 0 ∨ year % 400 = 0) then 29 else 28
  else if month = 4 ∨ month = 6 ∨ month = 9 ∨ month = 11 then 30
  else 31

/-- One or two digits at the front of a text as a number within bounds, and what stands after
    them. -/
def cutField (low high : Nat) (t : Text) : Option (Nat × Text) :=
  let digits := (t.takeWhile Text.isDecimal).take 2
  match Text.toNat? digits with
  | some n => if low ≤ n ∧ n ≤ high then some (n, t.drop digits.length) else none
  | none => none

/-- What stands after a byte at the front of a text. -/
def cutByte (b : UInt8) : Text → Option Text
  | c :: rest => if c = b then some rest else none
  | [] => none

/-- A date at the front of a text, and what stands after it. -/
def cutDate (t : Text) : Option Text := do
  let (digits, rest) := cutDigits t
  let year ← Text.toNat? digits
  if digits.length ≠ 4 then none
  else
    let (month, rest) ← cutField 1 12 (← cutByte 0x2D rest)
    let (_, rest) ← cutField 1 (monthLength year month) (← cutByte 0x2D rest)
    return rest

/-- A time of the day at the front of a text, and what stands after it. -/
def cutTime (t : Text) : Option Text := do
  let (_, rest) ← cutField 0 23 t
  let (_, rest) ← cutField 0 59 (← cutByte 0x3A rest)
  let (_, rest) ← cutField 0 59 (← cutByte 0x3A rest)
  match rest with
  | 0x2E :: part =>
    let (digits, after) := cutDigits part
    if digits.isEmpty then none else return after
  | _ => return rest

/-- Whether a text is a zone of time: `Z`, or a sign with hours and minutes. -/
def isZone : Text → Bool
  | [0x5A] => true
  | [sign, a, b, 0x3A, c, d] =>
    (sign = 0x2B || sign = 0x2D) && [a, b, c, d].all Text.isDecimal &&
      Text.decimalValue [a, b] ≤ 24 && Text.decimalValue [c, d] < 60
  | _ => false

/-- Whether a text is a date, with a time or without one. -/
def isTimestamp (t : Text) : Bool :=
  match cutDate t with
  | none => false
  | some [] => true
  | some (divider :: rest) =>
    match cutTime rest with
    | none => false
    | some zone =>
      ((divider = 0x54 || divider = 0x74) && isZone zone) || (divider = 0x20 && zone.isEmpty)

/-- What a plain scalar is taken for. -/
def Tag.ofPlain (t : Text) : Tag :=
  match spellings.lookup t with
  | some tag => tag
  | none =>
    match t with
    | [] => .null
    | first :: _ =>
      if first = 0x2E then if isFraction t then .float else .str
      else if first = 0x2B ∨ first = 0x2D ∨ Text.isDecimal first then
        let bare := t.filter (· ≠ 0x5F)
        if isTimestamp t then .timestamp
        else if isInteger bare then .int
        else if isFraction bare then .float
        else .str
      else .str

end Gamebook.Markup
