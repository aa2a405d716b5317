import Gamebook.Text

/-! # Tokens of markup

Markup describes data by scalars, sequences and mappings. They are written in blocks, where
indentation tells what belongs together, or in flows between brackets. As tokens both have brackets:
a block starts and ends with a token too.
-/

namespace Gamebook.Markup

/-- What a token is. -/
inductive TokenKind where
  | blockSequence
  | blockMapping
  /-- The end of a block. -/
  | blockEnd
  | flowSequence
  | flowSequenceEnd
  | flowMapping
  | flowMappingEnd
  /-- A dash before an item of a block. -/
  | item
  /-- A comma in a flow. -/
  | comma
  /-- A key comes next. -/
  | key
  /-- A value comes next. -/
  | value
  /-- A scalar, and whether it stands between quotes. -/
  | scalar (quoted : Bool) (text : Text)
  | documentStart
  | documentEnd
  | streamEnd
  deriving DecidableEq, Repr, Inhabited

/-- A token with the line on which it starts, counted from zero. -/
structure Token where
  kind : TokenKind
  line : Nat
  deriving DecidableEq, Repr, Inhabited

/-- Why a text is not markup. -/
inductive Fault where
  | notText
  | noColon
  | itemNotAllowed
  | keyNotAllowed
  | valueNotAllowed
  | noSuchToken
  | markerInScalar
  | endInScalar
  | badEscape
  | tabInIndentation
  | notSupported
  | noNode
  | noItem
  | noKey
  | noCommaOrBracket
  | noDocument
  deriving DecidableEq, Repr, Inhabited

/-- What people are told about a fault. -/
def Fault.message : Fault → Text
  | .notText => "control characters are not allowed"
  | .noColon => "could not find expected ':'"
  | .itemNotAllowed => "block sequence entries are not allowed in this context"
  | .keyNotAllowed => "mapping keys are not allowed in this context"
  | .valueNotAllowed => "mapping values are not allowed in this context"
  | .noSuchToken => "found character that cannot start any token"
  | .markerInScalar => "found unexpected document indicator"
  | .endInScalar => "found unexpected end of stream"
  | .badEscape => "found unknown escape character"
  | .tabInIndentation => "found a tab character that violates indentation"
  | .notSupported => "found a form of markup that is not supported"
  | .noNode => "did not find expected node content"
  | .noItem => "did not find expected '-' indicator"
  | .noKey => "did not find expected key"
  | .noCommaOrBracket => "did not find expected ',' or closing bracket"
  | .noDocument => "did not find expected <document start>"

end Gamebook.Markup
