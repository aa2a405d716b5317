import Gamebook.Token

/-! # Problems

What can be wrong with a source, a reference or a session, each with the code that programs tell it
by and the message that people read.
-/

namespace Gamebook

/-- Where a session stands. -/
inductive Stage where
  /-- The entry scene has not been entered. -/
  | awaitingEntry
  /-- A scene is being shown. -/
  | presenting
  /-- The player is to choose. -/
  | awaitingChoice
  /-- A choice is being followed. -/
  | transitioning
  /-- The session is over. -/
  | ended
  deriving DecidableEq, Repr, Inhabited

namespace Stage

/-- The stages in the order of their numbers. -/
def all : List Stage :=
  [.awaitingEntry, .presenting, .awaitingChoice, .transitioning, .ended]

/-- The name of a stage. -/
def text : Stage → Text
  | .awaitingEntry => "AwaitingEntry"
  | .presenting => "Presenting"
  | .awaitingChoice => "AwaitingChoice"
  | .transitioning => "Transitioning"
  | .ended => "Ended"

/-- The name of the stage with the given number. -/
def textOfNumber (n : Int) : Text :=
  match numbered? all n with
  | some s => s.text
  | none => "State(" ++ Text.ofInt n ++ ")"

end Stage

/-- What kind of problem a program has to deal with. -/
inductive Code where
  | unknown
  | lexical
  | structural
  | unresolvedFile
  | unresolvedModule
  | unresolvedScene
  /-- Reading or writing failed. -/
  | transfer
  | deadEnd
  | invalidChoice
  | cancelled
  | retriesExhausted
  | invalidState
  /-- A code that a host made up. -/
  | other (name : Text)
  deriving DecidableEq, Repr, Inhabited

namespace Code

/-- The codes that have a meaning here. -/
def all : List Code :=
  [.unknown, .lexical, .structural, .unresolvedFile, .unresolvedModule, .unresolvedScene,
   .transfer, .deadEnd, .invalidChoice, .cancelled, .retriesExhausted, .invalidState]

/-- The name of a code. -/
def text : Code → Text
  | .unknown => "UNKNOWN"
  | .lexical => "LEXICAL"
  | .structural => "STRUCTURAL"
  | .unresolvedFile => "UNRESOLVED_FILE"
  | .unresolvedModule => "UNRESOLVED_MODULE"
  | .unresolvedScene => "UNRESOLVED_SCENE"
  | .transfer => "IO"
  | .deadEnd => "DEAD_END"
  | .invalidChoice => "INVALID_CHOICE"
  | .cancelled => "CANCELLED"
  | .retriesExhausted => "RETRIES_EXHAUSTED"
  | .invalidState => "INVALID_STATE"
  | .other name => name

/-- The code with the given name. -/
def ofText (name : Text) : Code :=
  (all.find? fun code => code.text = name).getD (.other name)

/-- Whether a session goes on after a problem with this code. -/
def isRecoverable (code : Code) : Bool :=
  code = .invalidChoice

/-- Whether the code says that a reference leads nowhere. -/
def isUnresolved (code : Code) : Bool :=
  code = .unresolvedFile || code = .unresolvedModule || code = .unresolvedScene

/-- The families of problems that a host asks for, each with its title. -/
def families : List (Code × Text) :=
  [(.lexical, "lexical error"), (.structural, "structural error"),
   (.unresolvedFile, "unresolved file"), (.unresolvedModule, "unresolved module"),
   (.unresolvedScene, "unresolved scene"), (.transfer, "i/o error"), (.deadEnd, "dead end"),
   (.invalidChoice, "invalid choice"), (.cancelled, "session cancelled"),
   (.retriesExhausted, "too many invalid choices"), (.invalidState, "invalid session state")]

end Code

/-- Something that is wrong. -/
inductive Problem where
  /-- A sigil is followed by a word that is no keyword. -/
  | unknownKeyword (word : Text)
  /-- The source ends inside a string. -/
  | unterminatedString
  /-- A string holds a byte at which no character is encoded. -/
  | strayByteInString
  /-- An equals sign is not followed by a greater-than sign. -/
  | loneEquals
  /-- No token starts with this rune. -/
  | unexpectedRune (r : Rune)
  /-- The source could not be read to its end. -/
  | brokenSource (file : Text)
  /-- Another token was needed; `context` says where. -/
  | expected (wanted : Kind) (context : String) (got : Token)
  | expectedModule (got : Token)
  | duplicateModule (name : Text) (first : Pos)
  | missingModuleEnd (name : Text)
  | mismatchedModuleEnd (closing name : Text) (start : Pos)
  | expectedScene (module : Text) (got : Token)
  | duplicateScene (name module : Text) (first : Pos)
  | expectedSceneItem (scene : Text) (got : Token)
  | secondFlavortext (scene : Text)
  | secondSelect (scene : Text) (first : Pos)
  | emptySelect (scene : Text)
  | missingSelect (scene : Text)
  | blankFilePath
  | expectedTarget (got : Token)
  /-- A path has no canonical form. -/
  | badPath (path : Text)
  | unreadableFile (path : Text)
  | missingFile (path : Text)
  | fileNotLoaded (path : Text)
  | moduleNotFound (module path : Text)
  | sceneNotFound (scene module path : Text)
  | startTwice (stage : Stage)
  | nothingToChoose (stage : Stage)
  | noChoiceReader
  | sessionCancelled
  | choiceNotRead
  | outputNotWritten
  | noOptionAvailable (scene : Text)
  | invalidChoice (input : Text) (count : Nat)
  | tooManyInvalidChoices (count : Nat)
  /-- A problem that a host reports in its own words. -/
  | reported (code : Code) (message : Text)
  /-- A problem that more problems follow. -/
  | andMore (first : Problem) (more : Nat)
  deriving DecidableEq, Repr, Inhabited

namespace Problem

/-- The code of a problem. -/
def code : Problem → Code
  | .unknownKeyword _ | .unterminatedString | .strayByteInString | .loneEquals
  | .unexpectedRune _ => .lexical
  | .brokenSource _ => .transfer
  | .expected .. | .expectedModule _ | .duplicateModule .. | .missingModuleEnd _
  | .mismatchedModuleEnd .. | .expectedScene .. | .duplicateScene .. | .expectedSceneItem ..
  | .secondFlavortext _ | .secondSelect .. | .emptySelect _ | .missingSelect _ | .blankFilePath
  | .expectedTarget _ => .structural
  | .badPath _ | .unreadableFile _ => .transfer
  | .missingFile _ => .unresolvedFile
  | .fileNotLoaded _ => .invalidState
  | .moduleNotFound .. => .unresolvedModule
  | .sceneNotFound .. => .unresolvedScene
  | .startTwice _ | .nothingToChoose _ | .noChoiceReader => .invalidState
  | .sessionCancelled => .cancelled
  | .choiceNotRead | .outputNotWritten => .transfer
  | .noOptionAvailable _ => .deadEnd
  | .invalidChoice .. => .invalidChoice
  | .tooManyInvalidChoices _ => .retriesExhausted
  | .reported code _ => code
  | .andMore first _ => first.code

/-- What a parser calls the token it needs. -/
def wantedText : Kind → Text
  | .name => "a name"
  | .string => "a string"
  | k => k.text.quoted

/-- What people are told about a problem. -/
def message : Problem → Text
  | .unknownKeyword word => "unknown keyword " ++ word.quoted
  | .unterminatedString => "unterminated string literal"
  | .strayByteInString => "invalid UTF-8 in string literal"
  | .loneEquals => "unexpected character '=' (did you mean '=>'?)"
  | .unexpectedRune r => "unexpected character " ++ r.quoted
  | .brokenSource file => "scanner: read " ++ file
  | .expected wanted context got =>
    "expected " ++ wantedText wanted ++ " " ++ context ++ ", got " ++ got.text ++
      (if wanted = .name ∧ got.kind.isKeyword then " (reserved words cannot be names)" else "")
  | .expectedModule got => "expected @module, got " ++ got.text
  | .duplicateModule name first =>
    "duplicate module " ++ name.quoted ++ " (first declared at " ++ first.text ++ ")"
  | .missingModuleEnd name => "module " ++ name.quoted ++ " is missing @end-module"
  | .mismatchedModuleEnd closing name start =>
    "@end-module " ++ closing ++ " does not match @module " ++ name ++ " at " ++ start.text
  | .expectedScene module got =>
    "expected @scene or @end-module in module " ++ module.quoted ++ ", got " ++ got.text
  | .duplicateScene name module first =>
    "duplicate scene " ++ name.quoted ++ " in module " ++ module.quoted ++ " (first declared at " ++
      first.text ++ ")"
  | .expectedSceneItem scene got =>
    "expected get, lose, flavortext, select or @end-scene in scene " ++ scene.quoted ++ ", got " ++
      got.text
  | .secondFlavortext scene =>
    "scene " ++ scene.quoted ++ " has more than one flavortext block"
  | .secondSelect scene first =>
    "scene " ++ scene.quoted ++ " has more than one select block (first at " ++ first.text ++ ")"
  | .emptySelect scene => "select block of scene " ++ scene.quoted ++ " has no options"
  | .missingSelect scene => "scene " ++ scene.quoted ++ " has no select block"
  | .blankFilePath => "@file path is empty"
  | .expectedTarget got => "expected a scene name or @file reference, got " ++ got.text
  | .badPath path => "loader: canonicalize " ++ path
  | .unreadableFile path => "loader: read " ++ path
  | .missingFile path => "loader: file " ++ path ++ " not found"
  | .fileNotLoaded path => "loader: file " ++ path ++ " has not been loaded"
  | .moduleNotFound module path => "loader: module " ++ module.quoted ++ " not found in " ++ path
  | .sceneNotFound scene module path =>
    "loader: scene " ++ scene.quoted ++ " not found in module " ++ module.quoted ++ " of " ++ path
  | .startTwice stage => "eval: cannot start a session in state " ++ stage.text
  | .nothingToChoose stage => "eval: no choice pending in state " ++ stage.text
  | .noChoiceReader => "eval: no choice reader configured"
  | .sessionCancelled => "eval: session cancelled"
  | .choiceNotRead => "eval: read choice"
  | .outputNotWritten => "eval: write output"
  | .noOptionAvailable scene => "eval: scene " ++ scene.quoted ++ " has no available options"
  | .invalidChoice input count =>
    "invalid choice " ++ input.quoted ++ ": enter a number from 1 to " ++ Text.ofNat count
  | .tooManyInvalidChoices count => "eval: " ++ Text.ofNat count ++ " invalid choices in a row"
  | .reported _ message => message
  | .andMore first more =>
    first.message ++ " (and " ++ Text.ofNat more ++ " more " ++
      (if more = 1 then "error" else "errors") ++ ")"

end Problem

end Gamebook
