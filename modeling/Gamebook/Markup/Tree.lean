import Gamebook.Markup.Scan

/-! # Trees of markup

The tokens of a document make a tree of scalars, sequences and mappings. What is left out where a node
may stand is an empty plain scalar.
-/

namespace Gamebook.Markup

/-- A node of a tree, with the line on which it starts, counted from one. -/
inductive Tree where
  | scalar (line : Nat) (quoted : Bool) (text : Text)
  | sequence (line : Nat) (items : List Tree)
  | mapping (line : Nat) (entries : List (Tree × Tree))
  deriving Repr, Inhabited

namespace Tree

/-- The line on which a node starts. -/
def line : Tree → Nat
  | .scalar line .. => line
  | .sequence line _ => line
  | .mapping line _ => line

/-- What stands where a node is left out before a token. -/
def missing (before : Token) : Tree :=
  .scalar (before.line + 1) false []

/-- The tokens of the next part of a flow. A comma stands before every part but the first. -/
def afterComma (first : Bool) (token : Token) (rest : List Token) : Except Fault (List Token) :=
  if first then .ok (token :: rest)
  else if token.kind = .comma then .ok rest
  else .error .noCommaOrBracket

mutual

/-- Reads a node. Blocks may start only outside of flows; the items of a mapping's value need no
    indentation. -/
def readNode (block indentless : Bool) :
    (fuel : Nat) → List Token → Except Fault (Tree × List Token)
  | 0, _ => .error .noNode
  | _ + 1, [] => .error .noNode
  | fuel + 1, token :: rest =>
    let line := token.line + 1
    match token.kind with
    | .scalar quoted text => .ok (.scalar line quoted text, rest)
    | .flowSequence => do
      let (items, rest) ← readFlowItems true fuel rest
      return (.sequence line items, rest)
    | .flowMapping => do
      let (entries, rest) ← readFlowEntries true fuel rest
      return (.mapping line entries, rest)
    | .blockSequence =>
      if block then do
        let (items, rest) ← readBlockItems fuel rest
        return (.sequence line items, rest)
      else .error .noNode
    | .blockMapping =>
      if block then do
        let (entries, rest) ← readBlockEntries fuel rest
        return (.mapping line entries, rest)
      else .error .noNode
    | .item =>
      if indentless then do
        let (items, rest) ← readIndentlessItems fuel (token :: rest)
        return (.sequence line items, rest)
      else .error .noNode
    | _ => .error .noNode

/-- Reads a node of a block, unless one of the given tokens comes next. -/
def readUnless (stops : List TokenKind) (indentless : Bool) :
    (fuel : Nat) → List Token → Except Fault (Tree × List Token)
  | 0, _ => .error .noNode
  | _ + 1, [] => .error .noNode
  | fuel + 1, token :: rest =>
    if stops.contains token.kind then .ok (missing token, token :: rest)
    else readNode true indentless fuel (token :: rest)

/-- Reads a node of a flow, unless one of the given tokens comes next. -/
def readInFlow (stops : List TokenKind) :
    (fuel : Nat) → List Token → Except Fault (Tree × List Token)
  | 0, _ => .error .noNode
  | _ + 1, [] => .error .noNode
  | fuel + 1, token :: rest =>
    if stops.contains token.kind then .ok (missing token, token :: rest)
    else readNode false false fuel (token :: rest)

/-- Reads the items of a block up to its end. -/
def readBlockItems : (fuel : Nat) → List Token → Except Fault (List Tree × List Token)
  | 0, _ => .error .noItem
  | _ + 1, [] => .error .noItem
  | fuel + 1, token :: rest =>
    match token.kind with
    | .item => do
      let (item, rest) ← readUnless [.item, .blockEnd] false fuel rest
      let (items, rest) ← readBlockItems fuel rest
      return (item :: items, rest)
    | .blockEnd => .ok ([], rest)
    | _ => .error .noItem

/-- Reads items that are not further in than the key before them. -/
def readIndentlessItems : (fuel : Nat) → List Token → Except Fault (List Tree × List Token)
  | 0, _ => .error .noItem
  | _ + 1, [] => .error .noItem
  | fuel + 1, token :: rest =>
    if token.kind = .item then do
      let (item, rest) ← readUnless [.item, .key, .value, .blockEnd] false fuel rest
      let (items, rest) ← readIndentlessItems fuel rest
      return (item :: items, rest)
    else .ok ([], token :: rest)

/-- Reads the entries of a block up to its end. -/
def readBlockEntries : (fuel : Nat) → List Token → Except Fault (List (Tree × Tree) × List Token)
  | 0, _ => .error .noKey
  | _ + 1, [] => .error .noKey
  | fuel + 1, token :: rest =>
    match token.kind with
    | .key => do
      let (key, rest) ← readUnless [.key, .value, .blockEnd] true fuel rest
      let (value, rest) ← readBlockValue fuel rest
      let (entries, rest) ← readBlockEntries fuel rest
      return ((key, value) :: entries, rest)
    | .blockEnd => .ok ([], rest)
    | _ => .error .noKey

/-- Reads the value of an entry of a block. -/
def readBlockValue : (fuel : Nat) → List Token → Except Fault (Tree × List Token)
  | 0, _ => .error .noKey
  | _ + 1, [] => .error .noKey
  | fuel + 1, token :: rest =>
    if token.kind = .value then readUnless [.key, .value, .blockEnd] true fuel rest
    else .ok (missing token, token :: rest)

/-- Reads the items of a flow up to its end. An item may be a single entry of a mapping. -/
def readFlowItems (first : Bool) :
    (fuel : Nat) → List Token → Except Fault (List Tree × List Token)
  | 0, _ => .error .noCommaOrBracket
  | _ + 1, [] => .error .noCommaOrBracket
  | fuel + 1, token :: rest =>
    if token.kind = .flowSequenceEnd then .ok ([], rest)
    else do
      match ← afterComma first token rest with
      | [] => .error .noCommaOrBracket
      | token :: rest =>
        if token.kind = .flowSequenceEnd then .ok ([], rest)
        else if token.kind = .key then do
          let (key, rest) ← readInFlow [.value, .comma, .flowSequenceEnd] fuel rest
          let (value, rest) ← readFlowValue [.comma, .flowSequenceEnd] fuel rest
          let (items, rest) ← readFlowItems false fuel rest
          return (.mapping (token.line + 1) [(key, value)] :: items, rest)
        else do
          let (item, rest) ← readNode false false fuel (token :: rest)
          let (items, rest) ← readFlowItems false fuel rest
          return (item :: items, rest)

/-- Reads the value of an entry of a flow, which ends before one of the given tokens. -/
def readFlowValue (stops : List TokenKind) :
    (fuel : Nat) → List Token → Except Fault (Tree × List Token)
  | 0, _ => .error .noCommaOrBracket
  | _ + 1, [] => .error .noCommaOrBracket
  | fuel + 1, token :: rest =>
    if token.kind = .value then readInFlow stops fuel rest
    else .ok (missing token, token :: rest)

/-- Reads the entries of a flow up to its end. An entry may be a key alone. -/
def readFlowEntries (first : Bool) :
    (fuel : Nat) → List Token → Except Fault (List (Tree × Tree) × List Token)
  | 0, _ => .error .noCommaOrBracket
  | _ + 1, [] => .error .noCommaOrBracket
  | fuel + 1, token :: rest =>
    if token.kind = .flowMappingEnd then .ok ([], rest)
    else do
      match ← afterComma first token rest with
      | [] => .error .noCommaOrBracket
      | token :: rest =>
        if token.kind = .flowMappingEnd then .ok ([], rest)
        else if token.kind = .key then do
          let (key, rest) ← readInFlow [.value, .comma, .flowMappingEnd] fuel rest
          let (value, rest) ← readFlowValue [.comma, .flowMappingEnd] fuel rest
          let (entries, rest) ← readFlowEntries false fuel rest
          return ((key, value) :: entries, rest)
        else do
          let (key, rest) ← readNode false false fuel (token :: rest)
          let (entries, rest) ← readFlowEntries false fuel rest
          return ((key, missing token) :: entries, rest)

end

/-- Reads the first document of some tokens. There is none if nothing comes before the end. -/
def ofTokens (tokens : List Token) : Except Fault (Option Tree) :=
  let fuel := 3 * tokens.length + 3
  match tokens with
  | [] => .error .noDocument
  | first :: rest =>
    match first.kind, rest with
    | .streamEnd, _ => .ok none
    | .documentStart, [] => .error .noDocument
    | .documentStart, next :: rest =>
      if next.kind = .documentStart ∨ next.kind = .documentEnd ∨ next.kind = .streamEnd then
        .ok (some (missing next))
      else (readNode true false fuel (next :: rest)).map fun (node, _) => some node
    | _, rest => (readNode true false fuel (first :: rest)).map fun (node, _) => some node

/-- The first document of a text. A fault in the text matters only if the document is not complete
    before it. -/
def ofText (t : Text) : Except Fault (Option Tree) :=
  let scanned := Scanned.ofText t
  match ofTokens scanned.tokens with
  | .ok found => .ok found
  | .error fault => .error (scanned.fault.getD fault)

end Tree

end Gamebook.Markup
