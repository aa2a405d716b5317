import Gamebook.Disk
import Gamebook.Log.Writer
import Gamebook.Settings.Dotenv
import Gamebook.Text.Numeral

/-! # Settings

Settings come from variables of the environment, and from files of variables that set what the
environment does not. A variable that is set to nothing counts as set, and stands for the usual value.
-/

namespace Gamebook

/-- The variables of a program's environment. -/
abbrev Environment := List (Text × Text)

/-- What can be set without the command line. -/
structure Settings where
  logLevel : Text := []
  logEncoding : Text := []
  logOutput : Text := []
  /-- The path of the database in which transcripts are kept. -/
  transcript : Text := []
  /-- How many invalid choices in a row end a session; zero for any number. -/
  maxRetries : Int := 0
  deriving DecidableEq, Repr, Inhabited

namespace Environment

/-- The value of a variable that is set to something, or the usual value. -/
def valueOr (env : Environment) (name usual : Text) : Text :=
  match env.lookup name with
  | some value => if value.isEmpty then usual else value
  | none => usual

/-- The environment with the variables of a file. Those that are set already stay as they are, and
    those that no environment can hold are left out. -/
def extend (env : Environment) (vars : Dotenv.Variables) : Environment :=
  let holds (entry : Text × Text) : Bool :=
    ¬ entry.1.isEmpty ∧ ¬ entry.1.contains 0 ∧ ¬ entry.2.contains 0
  env ++ vars.filter fun entry => holds entry && (env.lookup entry.1).isNone

/-- The environment with the variables of files, read in turn. The first file that does not exist
    ends the reading. -/
def load (d : Disk) (env : Environment) : List Text → Except Failure Environment
  | [] => .ok env
  | path :: rest =>
    match d.read path with
    | .error cause => if cause.isMissingFile then .ok env else .error (.said "load dotenv" :: cause)
    | .ok contents =>
      match Dotenv.parse contents with
      | .error fault => .error [.said "load dotenv", .said fault.message]
      | .ok vars => load d (env.extend vars) rest

end Environment

namespace Settings

/-- The file of variables that is read if no other is named. -/
def usualFile : Text := ".env"

/-- The variables of the environment that hold settings. -/
def variableNames : List Text :=
  ["NARRATE_LOG_LEVEL", "NARRATE_LOG_ENCODING", "NARRATE_LOG_OUTPUT", "NARRATE_TRANSCRIPT",
   "NARRATE_MAX_RETRIES"]

/-- Why a number cannot be used. -/
def faultText : Text.NumeralFault → Text
  | .malformed => "invalid syntax"
  | .outOfRange => "value out of range"

/-- The number of retries that a text spells. -/
def parseRetries (t : Text) : Except Failure Int :=
  match Text.parseInt (some 10) 32 t with
  | .error fault =>
    .error [.said "parse env", .said "env", .said "parse error on field \"MaxRetries\" of type \"int\"",
      .said "strconv.ParseInt", .said ("parsing " ++ t.quoted), .said (faultText fault)]
  | .ok n =>
    if n < 0 then
      .error [.said "parse env",
        .said ("NARRATE_MAX_RETRIES must not be negative, got " ++ Text.ofInt n)]
    else .ok n

/-- The settings of an environment. -/
def ofEnvironment (env : Environment) : Except Failure Settings := do
  let maxRetries ← parseRetries (env.valueOr "NARRATE_MAX_RETRIES" "0")
  return {
    logLevel := env.valueOr "NARRATE_LOG_LEVEL" "warn"
    logEncoding := env.valueOr "NARRATE_LOG_ENCODING" "console"
    logOutput := env.valueOr "NARRATE_LOG_OUTPUT" "stderr"
    transcript := env.valueOr "NARRATE_TRANSCRIPT" []
    maxRetries }

/-- The settings of an environment and of files of variables. -/
def load (d : Disk) (env : Environment) (files : List Text) : Except Failure Settings := do
  ofEnvironment (← env.load d (if files.isEmpty then [usualFile] else files))

/-- How the log is to be set up. -/
def log (s : Settings) : Log.Setup :=
  ⟨s.logLevel, s.logEncoding, s.logOutput⟩

end Settings

end Gamebook
