import Gamebook.Position
import Gamebook.Text.Quoted

/-! # Tokens

The words and marks that a story is written with. A token has a kind, the text it was read from
and the position at which that text starts.
-/

namespace Gamebook

/-- What a token is. -/
inductive Kind where
  /-- The end of the source. -/
  | endOfInput
  /-- A name that is not reserved. -/
  | name
  /-- A text between double quotes. -/
  | string
  /-- `@module` -/
  | moduleStart
  /-- `@end-module` -/
  | moduleEnd
  /-- `@scene` -/
  | sceneStart
  /-- `@end-scene` -/
  | sceneEnd
  /-- `@file` -/
  | fileRef
  | flavortext
  | select
  | get
  | lose
  | has
  | no
  /-- `:` -/
  | colon
  /-- `::` -/
  | scope
  /-- `;` -/
  | semicolon
  | leftBrace
  | rightBrace
  | leftParen
  | rightParen
  /-- `,` -/
  | comma
  /-- `=>` -/
  | arrow
  /-- `?` -/
  | question
  deriving DecidableEq, Repr, Inhabited

/-- The broad classes of tokens. -/
inductive Category where
  | endOfInput
  | identifier
  | string
  | keyword
  | punctuation
  deriving DecidableEq, Repr, Inhabited

namespace Category

/-- The classes in the order of their numbers. -/
def all : List Category :=
  [.endOfInput, .identifier, .string, .keyword, .punctuation]

/-- The name of a class, or of none. -/
def text : Option Category → Text
  | some .endOfInput => "end"
  | some .identifier => "identifier"
  | some .string => "string"
  | some .keyword => "keyword"
  | some .punctuation => "punctuation"
  | none => "unknown"

end Category

/-- The entry with the given number, counted from zero. -/
def numbered? {α : Type} (entries : List α) (n : Int) : Option α :=
  if n < 0 then none else entries[n.toNat]?

namespace Kind

/-- The kinds in the order of their numbers. -/
def all : List Kind :=
  [.endOfInput, .name, .string, .moduleStart, .moduleEnd, .sceneStart, .sceneEnd, .fileRef,
   .flavortext, .select, .get, .lose, .has, .no, .colon, .scope, .semicolon, .leftBrace,
   .rightBrace, .leftParen, .rightParen, .comma, .arrow, .question]

/-- How a kind is written in a source or, where its text varies, what it is called. -/
def text : Kind → Text
  | .endOfInput => "EOF"
  | .name => "IDENT"
  | .string => "STRING"
  | .moduleStart => "@module"
  | .moduleEnd => "@end-module"
  | .sceneStart => "@scene"
  | .sceneEnd => "@end-scene"
  | .fileRef => "@file"
  | .flavortext => "flavortext"
  | .select => "select"
  | .get => "get"
  | .lose => "lose"
  | .has => "has"
  | .no => "no"
  | .colon => ":"
  | .scope => "::"
  | .semicolon => ";"
  | .leftBrace => "\x7b"
  | .rightBrace => "\x7d"
  | .leftParen => "("
  | .rightParen => ")"
  | .comma => ","
  | .arrow => "=>"
  | .question => "?"

/-- The text of a kind, or of a number that no kind has. -/
def textOf : Option Kind → Text
  | some k => k.text
  | none => "UNKNOWN"

/-- The class of a kind. -/
def category : Kind → Category
  | .endOfInput => .endOfInput
  | .name => .identifier
  | .string => .string
  | .moduleStart | .moduleEnd | .sceneStart | .sceneEnd | .fileRef
  | .flavortext | .select | .get | .lose | .has | .no => .keyword
  | .colon | .scope | .semicolon | .leftBrace | .rightBrace | .leftParen | .rightParen
  | .comma | .arrow | .question => .punctuation

/-- The class of a kind, or of a number that no kind has. -/
def categoryOf : Option Kind → Category
  | some k => k.category
  | none => .punctuation

/-- Whether a kind is a reserved word, with or without a sigil. -/
def isKeyword (k : Kind) : Bool :=
  k.category = .keyword

/-- The reserved words that start with a sigil. -/
def sigils : List Kind :=
  [.moduleStart, .moduleEnd, .sceneStart, .sceneEnd, .fileRef]

/-- The reserved words without a sigil. -/
def reserved : List Kind :=
  [.flavortext, .select, .get, .lose, .has, .no]

/-- The reserved word that a word with a sigil is. -/
def ofSigil? (word : Text) : Option Kind :=
  sigils.find? fun k => k.text = word

/-- What a word without a sigil is: a reserved word, or else a name. -/
def ofWord (word : Text) : Kind :=
  (reserved.find? fun k => k.text = word).getD .name

end Kind

/-- A token of a source. -/
structure Token where
  kind : Kind
  lexeme : Text
  pos : Pos
  deriving DecidableEq, Repr, Inhabited

namespace Token

/-- What messages call a token of the given kind and text. -/
def describe (kind : Option Kind) (lexeme : Text) : Text :=
  match Kind.categoryOf kind with
  | .endOfInput => "end of input"
  | .identifier => "identifier " ++ lexeme.quoted
  | .string => "string " ++ lexeme.quoted
  | .keyword => "keyword " ++ (Kind.textOf kind).quoted
  | .punctuation => (Kind.textOf kind).quoted

/-- What messages call a token. -/
def text (t : Token) : Text :=
  describe (some t.kind) t.lexeme

end Token

end Gamebook
