import Gamebook.Command.Flags
import Gamebook.Manifest
import Gamebook.Settings
import Gamebook.Theater

/-! # The command

The command plays a story, or only looks at it: it prints its tokens, or what is wrong with it. It is
told what to do by flags, by a manifest, by the environment and by a file of variables, in this order
of precedence. It ends with the status 0 if the host ended the session, 1 if anything failed, and 2 if
the command line was not understood.
-/

namespace Gamebook

/-- Where the command writes. -/
inductive Stream where
  | out
  | err
  /-- The standard output, as the log's destination. -/
  | logOut
  /-- The standard error, as the log's destination. -/
  | logErr
  deriving DecidableEq, Repr, Inhabited

/-- How the command is called. -/
structure Invocation where
  arguments : List Text
  environment : Environment := []
  input : Feed := {}
  /-- Whether the input comes from a terminal. -/
  interactive : Bool := false
  /-- Why sessions are to stop, if they are. -/
  halted : Option Failure := none
  /-- How many times sessions are told to go on before they are to stop. -/
  grace : Nat := 0
  /-- Where sessions are shown. -/
  output : Sink := {}
  /-- The time that is written into the log. -/
  time : Text
  /-- The name of the session. -/
  id : Text
  deriving DecidableEq, Repr, Inhabited

/-- What the command has done so far. -/
structure Console where
  disk : Disk
  /-- What was written, in order. -/
  written : List (Stream × Text) := []
  /-- Why the session that was played ended. -/
  ending : Failure := []
  deriving DecidableEq, Repr, Inhabited

namespace Console

/-- What was written to a stream. -/
def text (c : Console) (s : Stream) : Text :=
  (c.written.filter fun (stream, _) => stream = s).flatMap Prod.snd

/-- Whether the session ended only because what had arrived of the input was used up. -/
def awaitsInput (c : Console) : Bool :=
  Feed.unfinished.isSuffixOf c.ending

/-- The console after something was written to a stream. -/
def write (s : Stream) (t : Text) (c : Console) : Console :=
  { c with written := c.written ++ [(s, t)] }

/-- The console after entries were written to a log. -/
def log (w : Log.Writer) (time : Text) (entries : List Log.Entry) (c : Console) : Console :=
  let lines := w.lines time entries
  match w.destination with
  | .out => c.write .logOut lines
  | .err => c.write .logErr lines
  | .file place => { c with disk := c.disk.append place lines }

/-- The console after a complaint of the command. -/
def complain (message : Text) (c : Console) : Console :=
  c.write .err ("narrate: " ++ message ++ "\n")

end Console

/-- What a command line, a manifest and the settings ask for. -/
structure Plan where
  file : Text
  entry : Entry
  inventory : List Text
  /-- The path of the database for transcripts, or nothing. -/
  transcript : Text
  maxRetries : Int
  deriving DecidableEq, Repr, Inhabited

namespace Plan

/-- The items of a list with commas. -/
def items (t : Text) : List Text :=
  ((Text.split 0x2C t).map Text.trim).filter (· ≠ [])

/-- What a manifest and the settings ask for, without the flags. -/
def ofManifest (settings : Settings) (file : Text) : Option Manifest → Plan
  | none => ⟨file, {}, [], settings.transcript, settings.maxRetries⟩
  | some m =>
    { file := if file.isEmpty then m.file else file
      entry := ⟨m.module, m.scene⟩
      inventory := m.inventory.getD []
      transcript := if m.transcript.isEmpty then settings.transcript else m.transcript
      maxRetries := settings.maxRetries }

/-- What the flags ask for, and where they say nothing, what was asked for before. -/
def withFlags (p : Plan) (f : Flags) : Except Failure Plan := do
  let entry ← if f.entry.isEmpty then .ok p.entry else Entry.parse f.entry
  return { p with
    entry
    inventory := p.inventory ++ items f.items
    transcript := if f.transcript.isEmpty then p.transcript else f.transcript
    maxRetries := if 0 ≤ f.maxRetries then f.maxRetries else p.maxRetries }

end Plan

namespace Command

/-- How the command is used. -/
def usage : Text :=
  "usage: narrate [flags] <file>\n\n" ++
  "Plays the story starting at the entry scene. Choices are read one per line\n" ++
  "from stdin. The session ends when the story reaches a scene with no\n" ++
  "available options, or when input is closed (Ctrl+D) or interrupted (Ctrl+C).\n\n" ++
  "flags:\n" ++ Flags.description

/-- Prints the tokens of a file, and why there are no more of them. -/
def printTokens (file : Text) (c : Console) : Nat × Console :=
  match c.disk.openAt file with
  | .error failure => (1, c.complain failure.text)
  | .ok node =>
    let source := match Disk.contents file node with
      | .ok contents => Source.ofText file contents
      | .error broken => Source.ofText file [] (some broken)
    let line (t : Token) : Text :=
      file ++ ":" ++ t.pos.text ++ "\t" ++ Category.text (some t.kind.category) ++ "\t" ++ t.text ++
        "\n"
    let tokens := source.tokens
    let c := c.write .out (tokens.all.flatMap line)
    match tokens.failure with
    | some failure => (1, c.complain failure.text)
    | none => (0, c)

/-- Prints what is wrong with a file. -/
def printDiagnostics (w : Log.Writer) (time file : Text) (c : Console) : Nat × Console :=
  let (result, entries) := c.disk.check file
  let c := c.log w time entries
  match result with
  | .error failure => (1, c.complain failure.text)
  | .ok found =>
    let errors := (Diagnostic.errors found).length
    let warnings := (Diagnostic.warnings found).length
    let line (d : Diagnostic) : Text := d.text ++ "\n"
    let summary := file ++ ": " ++ Text.ofNat errors ++ " error(s), " ++ Text.ofNat warnings ++
      " warning(s)\n"
    (if 0 < errors then 1 else 0, c.write .out (found.flatMap line ++ summary))

/-- What is written to a terminal before each answer. -/
def prompt (i : Invocation) : Text :=
  if i.interactive then "> " else []

/-- The theater in which the command plays a session. -/
def house (i : Invocation) (p : Plan) (c : Console) : House :=
  let theater : Theater :=
    { answers := .lines { prompt := prompt i } i.input, outlet := .sink i.output
      inventory := p.inventory, maxRetries := p.maxRetries }
  let (theater, disk) :=
    if p.transcript.isEmpty then (theater, c.disk) else theater.keeping p.transcript c.disk
  { theater, disk, halted := i.halted, grace := i.grace }

/-- What the log says before a session. -/
def startingNote (i : Invocation) (p : Plan) : Log.Entry :=
  ⟨.debug, "starting session",
    [("file", .text p.file), ("module", .text p.entry.module), ("scene", .text p.entry.scene),
     ("inventory", .texts p.inventory), ("interactive", .flag i.interactive)]⟩

/-- What the command does when a session has been played. -/
def conclude (i : Invocation) (w : Log.Writer) (c : Console)
    (played : Option Failure × List Log.Entry × House) : Nat × Console :=
  let (failure, entries, house) := played
  let failure := failure.getD []
  let c := { c with disk := house.disk, ending := failure }.write .out house.sink.text
  let c := c.log w i.time entries
  if failure.isHostTermination then
    (0, if i.interactive ∧ (house.sink.write "\n").1 = none then c.write .out "\n" else c)
  else (1, c.complain failure.text)

/-- Plays a session. -/
def playSession (i : Invocation) (w : Log.Writer) (p : Plan) (c : Console) : Nat × Console :=
  let (opening, house) := (house i p c).opened
  let (failure, entries, house) := house.play i.id (p.entry.address p.file)
  conclude i w c (failure, opening ++ startingNote i p :: entries, house)

/-- Does what the flags ask for with what was planned. -/
def carryOut (i : Invocation) (f : Flags) (w : Log.Writer) (p : Plan) (c : Console) : Nat × Console :=
  if f.tokens then printTokens p.file c
  else if f.check then printDiagnostics w i.time p.file c
  else playSession i w p c

/-- Plans with a log that is ready, and carries the plan out. -/
def planAndCarryOut (i : Invocation) (f : Flags) (rest : List Text) (s : Settings) (w : Log.Writer)
    (c : Console) : Nat × Console :=
  let manifest : Except Manifest.Fault (Option Manifest) :=
    if f.manifest.isEmpty then .ok none else (Manifest.load c.disk f.manifest).map some
  match manifest with
  | .error fault => (1, c.complain fault.message)
  | .ok manifest =>
    match (Plan.ofManifest s (rest.headD []) manifest).withFlags f with
    | .error failure => (2, c.complain failure.text)
    | .ok plan =>
      if plan.file.isEmpty ∨ 1 < rest.length then (2, c.write .err usage)
      else carryOut i f w plan c

/-- Makes the log ready and goes on. -/
def withSettings (i : Invocation) (f : Flags) (rest : List Text) (s : Settings) (c : Console) :
    Nat × Console :=
  let s := if f.logLevel.isEmpty then s else { s with logLevel := f.logLevel }
  let c := c.write .logErr s.log.threshold.2
  match s.log.ready c.disk with
  | .error failure => (1, c.complain failure.text)
  | .ok (w, disk) => planAndCarryOut i f rest s w { c with disk }

/-- Runs the command: the status with which it ends, and what it has done. -/
def run (i : Invocation) (d : Disk) : Nat × Console :=
  let c : Console := { disk := d }
  match Flags.parse i.arguments with
  | .error fault =>
    match fault.message? with
    | none => (0, c.write .err usage)
    | some message => (2, (c.write .err (message ++ "\n")).write .err usage)
  | .ok (f, rest) =>
    match Settings.load d i.environment [] with
    | .error failure => (1, c.complain failure.text)
    | .ok s => withSettings i f rest s c

end Command

end Gamebook
