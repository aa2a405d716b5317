import Gamebook.Text.Numeral
import Gamebook.Text.Quoted

/-! # Flags

A command line holds flags and then other arguments. A flag starts with one or two dashes; its value
stands after an equals sign or is the next argument. A flag that is a switch needs no value. Two dashes
alone end the flags, and so does the first argument that is none.
-/

namespace Gamebook

/-- What the flags of a command line say. -/
structure Flags where
  check : Bool := false
  entry : Text := []
  items : Text := []
  logLevel : Text := []
  manifest : Text := []
  /-- A negative number leaves the settings as they are. -/
  maxRetries : Int := -1
  tokens : Bool := false
  transcript : Text := []
  deriving DecidableEq, Repr, Inhabited

/-- Why a command line is not understood. -/
inductive FlagFault where
  /-- Help was asked for. -/
  | help
  | badForm (argument : Text)
  | unknown (name : Text)
  | noValue (name : Text)
  | badSwitch (value name : Text)
  | badNumber (value name : Text) (fault : Text.NumeralFault)
  deriving DecidableEq, Repr, Inhabited

/-- What people are told about a fault. There is nothing to say to those who ask for help. -/
def FlagFault.message? : FlagFault → Option Text
  | .help => none
  | .badForm argument => some ("bad flag syntax: " ++ argument)
  | .unknown name => some ("flag provided but not defined: -" ++ name)
  | .noValue name => some ("flag needs an argument: -" ++ name)
  | .badSwitch value name =>
    some ("invalid boolean value " ++ value.quoted ++ " for -" ++ name ++ ": parse error")
  | .badNumber value name fault =>
    let why : Text := match fault with
      | .malformed => "parse error"
      | .outOfRange => "value out of range"
    some ("invalid value " ++ value.quoted ++ " for flag -" ++ name ++ ": " ++ why)

namespace Flags

/-- What a flag sets. -/
inductive Setter where
  | switch (set : Bool → Flags → Flags)
  | words (set : Text → Flags → Flags)
  | number (set : Int → Flags → Flags)

/-- The flags by their names. -/
def setters : List (Text × Setter) :=
  [("check", .switch fun b f => { f with check := b }),
   ("entry", .words fun t f => { f with entry := t }),
   ("items", .words fun t f => { f with items := t }),
   ("log-level", .words fun t f => { f with logLevel := t }),
   ("manifest", .words fun t f => { f with manifest := t }),
   ("max-retries", .number fun n f => { f with maxRetries := n }),
   ("tokens", .switch fun b f => { f with tokens := b }),
   ("transcript", .words fun t f => { f with transcript := t })]

/-- What the flags are for. -/
def description : Text :=
  "  -check\n    \tParse the file and print every diagnostic without running it\n" ++
  "  -entry string\n    \tEntry scene as module::scene (default main::start)\n" ++
  "  -items string\n    \tComma-separated starting inventory\n" ++
  "  -log-level string\n    \tLog level: debug, info, warn or error (overrides NARRATE_LOG_LEVEL)\n" ++
  "  -manifest string\n    \tStory manifest (narrate.yaml)\n" ++
  "  -max-retries int\n    \tInvalid choices allowed in a row before giving up, 0 for unlimited " ++
  "(overrides NARRATE_MAX_RETRIES) (default -1)\n" ++
  "  -tokens\n    \tPrint the token stream and exit\n" ++
  "  -transcript string\n    \tSQLite transcript path (overrides NARRATE_TRANSCRIPT)\n"

/-- The state of a switch that a text names. -/
def switch? (t : Text) : Option Bool :=
  if ["1", "t", "T", "TRUE", "true", "True"].any fun word => t = Text.ofString word then some true
  else if ["0", "f", "F", "FALSE", "false", "False"].any fun word => t = Text.ofString word then
    some false
  else none

/-- An argument as a flag: its name, and its value if it has one. The name is what stands before an
    equals sign, which cannot be the first character. -/
structure Given where
  name : Text
  value : Option Text
  deriving DecidableEq, Repr, Inhabited

/-- A flag without its dashes. -/
def Given.ofText (t : Text) : Given :=
  match t with
  | [] => ⟨[], none⟩
  | first :: rest =>
    match rest.dropWhile (· ≠ 0x3D) with
    | [] => ⟨t, none⟩
    | _ :: value => ⟨first :: rest.takeWhile (· ≠ 0x3D), some value⟩

/-- What an argument is. -/
inductive Argument where
  /-- No flag: the flags end before it. -/
  | other
  /-- Two dashes: the flags end with it. -/
  | ending
  /-- Dashes without a name after them. -/
  | malformed
  | flag (given : Given)
  deriving DecidableEq, Repr, Inhabited

/-- What an argument is. -/
def Argument.ofText : Text → Argument
  | [0x2D, 0x2D] => .ending
  | 0x2D :: 0x2D :: first :: rest => named (first :: rest)
  | 0x2D :: first :: rest => named (first :: rest)
  | _ => .other
where
  /-- A flag with a name that starts neither with a dash nor with an equals sign. -/
  named (t : Text) : Argument :=
    match t with
    | 0x2D :: _ => .malformed
    | 0x3D :: _ => .malformed
    | _ => .flag (.ofText t)

/-- Sets a flag. Its value may be the next argument. -/
def set (given : Given) (setter : Setter) (rest : List Text) (f : Flags) :
    Except FlagFault (Flags × List Text) :=
  match setter, given.value, rest with
  | .switch set, none, rest => .ok (set true f, rest)
  | .switch set, some value, rest =>
    match switch? value with
    | some b => .ok (set b f, rest)
    | none => .error (.badSwitch value given.name)
  | .words set, some value, rest => .ok (set value f, rest)
  | .words set, none, value :: rest => .ok (set value f, rest)
  | .number set, some value, rest => (number given.name value).map fun n => (set n f, rest)
  | .number set, none, value :: rest => (number given.name value).map fun n => (set n f, rest)
  | _, none, [] => .error (.noValue given.name)
where
  /-- The number that a value spells. -/
  number (name value : Text) : Except FlagFault Int :=
    match Text.parseInt none 64 value with
    | .ok n => .ok n
    | .error fault => .error (.badNumber value name fault)

/-- Whether a name asks for help. -/
def asksForHelp (name : Text) : Bool :=
  name = Text.ofString "help" || name = Text.ofString "h"

/-- The flags of a command line, read after others, and the arguments after them. -/
def parseFrom : (fuel : Nat) → Flags → List Text → Except FlagFault (Flags × List Text)
  | 0, f, arguments => .ok (f, arguments)
  | _ + 1, f, [] => .ok (f, [])
  | fuel + 1, f, argument :: rest =>
    match Argument.ofText argument with
    | .other => .ok (f, argument :: rest)
    | .ending => .ok (f, rest)
    | .malformed => .error (.badForm argument)
    | .flag given =>
      match setters.lookup given.name with
      | none => .error (if asksForHelp given.name then .help else .unknown given.name)
      | some setter => do
        let (f, rest) ← f.set given setter rest
        parseFrom fuel f rest

/-- The flags of a command line, and the arguments after them. -/
def parse (arguments : List Text) : Except FlagFault (Flags × List Text) :=
  parseFrom (arguments.length + 1) {} arguments

end Flags

end Gamebook
