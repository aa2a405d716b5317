import Gamebook.Command
import Gamebook.Proofs.Codes
import Gamebook.Proofs.Path
import Gamebook.Proofs.Script.Streaming

/-! # Checking a file and printing its tokens

A script is read to the last token even if the tokens fail there. The failure is then told once, at
the point where the end was reached, and it takes the place of the errors that are found at the
end. So the command finds the same fault in a file whether it prints the tokens or checks them.
-/

namespace Gamebook

/-- A file that can be read is checked by what it holds. -/
theorem Disk.check_of_read {d : Disk} (settled : d.Settled) {path text : Text}
    (read : d.read path = .ok text) :
    ∃ place, (d.check path).1 = .ok (Script.parse (Source.ofText place text)).2 := by
  obtain ⟨place, canonical, again⟩ := read_canonical settled read
  refine ⟨place, ?_⟩
  simp only [check, Loader.load, canonical, again, List.lookup_nil]
  rfl

theorem Command.printTokens_status {c : Console} {file text : Text}
    (read : c.disk.read file = .ok text) :
    (printTokens file c).1 = 1 ↔ (Source.ofText file text).tokens.failure ≠ none := by
  unfold printTokens
  simp only [Disk.read] at read
  cases opened : c.disk.openAt file with
  | error failure =>
    rw [opened] at read
    cases read
  | ok node =>
    rw [opened] at read
    have contents : Disk.contents file node = .ok text := read
    simp only [contents]
    split
    · next failed => simp [failed]
    · next ended => simp [ended]

theorem Command.printDiagnostics_written {c : Console} {file : Text} (w : Log.Writer) (time : Text)
    {found : List Diagnostic} (checked : (c.disk.check file).1 = .ok found) :
    ∃ summary, (printDiagnostics w time file c).2.written.getLast? =
      some (.out, found.flatMap (fun d => d.text ++ Text.ofString "\n") ++ summary) := by
  unfold printDiagnostics
  simp only [checked, Console.write, List.getLast?_concat]
  exact ⟨_, rfl⟩

/-- Of a text that was read to its end, what tells of a failure of its tokens is lexical. -/
theorem Script.exists_lexical_iff (file text : Text) :
    (∃ d ∈ (parse (Source.ofText file text)).2, d.problem.code = .lexical) ↔
      (Source.ofText file text).tokens.failure ≠ none := by
  rw [← exists_isScanning_iff rfl]
  constructor
  · rintro ⟨d, member, lexical⟩
    exact ⟨d, member, .inl lexical⟩
  · rintro ⟨d, member, lexical | transfer⟩
    · exact ⟨d, member, lexical⟩
    · have code := parse_code (Source.sound_ofText file text) d member
      simp [transfer] at code

/-- A script is read token by token up to the end of its source. Where the tokens fail, that is told
    once, where the end was reached, and of what is found then only a warning is told; where they do
    not, it is never told. So printing the tokens of a file fails exactly if checking it finds a
    lexical fault. -/
theorem lexical_failures_agree :
    (∀ (file text : Text) (broken : Option Failure),
      let s := Source.ofText file text broken
      (∃ final, Reading.Pull.script s = some (some (Script.parse s).1.modules, final) ∧
        final.token = s.tokens.last ∧ final.token.kind = .endOfInput ∧
        final.failed = s.tokens.failure.isSome ∧ final.told = (Script.parse s).2) ∧
      ((∃ d ∈ (Script.parse s).2, d.IsScanning) ↔ s.tokens.failure ≠ none) ∧
      ∀ f, s.tokens.failure = some f → ∃ before d after r,
        (Script.parse s).2 = before ++ d :: after ∧
        f.report? = some r ∧ d.IsScanning ∧ d.severity = .error ∧ d.file = s.file ∧
        d.problem.code = f.code ∧ d.problem.message = r.problem.message ∧
        d.pos =
          (if 0 < r.place.line then ⟨r.place.line, r.place.column⟩ else s.tokens.last.pos) ∧
        (∀ e ∈ before ++ after, ¬e.IsScanning) ∧ (∀ e ∈ after, e.severity = .warning) ∧
        after.length ≤ 1) ∧
    ∀ (i : Invocation) (flags : Flags) (w : Log.Writer) (p : Plan) (c : Console) (text : Text),
      c.disk.Settled → c.disk.read p.file = .ok text →
      ∃ found summary, (c.disk.check p.file).1 = .ok found ∧
        (Command.carryOut i { flags with tokens := false, check := true } w p c).2.written.getLast? =
          some (.out, found.flatMap (fun d => d.text ++ Text.ofString "\n") ++ summary) ∧
        ((Command.carryOut i { flags with tokens := true } w p c).1 = 1 ↔
          ∃ d ∈ found, d.problem.code = .lexical) := by
  refine ⟨?_, ?_⟩
  · intro file text broken s
    have fresh : s.failed = none := rfl
    refine ⟨Script.script_eq_parse s fresh, Script.exists_isScanning_iff fresh, fun f failed => ?_⟩
    obtain ⟨before, after, parsed, others, warned, few⟩ := Script.parse_of_failed failed
    obtain ⟨r, causes, rfl, code⟩ := (Source.isScanning_of_tokens fresh failed).exists_report
    exact ⟨before, _, after, r, parsed, rfl, code, rfl, rfl, rfl, rfl, rfl, others, warned, few⟩
  · intro i flags w p c text settled read
    obtain ⟨place, checked⟩ := Disk.check_of_read settled read
    obtain ⟨summary, printed⟩ := Command.printDiagnostics_written w i.time checked
    have alike : Source.Tokens.Alike none (Source.ofText p.file text).tokens
        (Source.ofText place text).tokens :=
      Source.tokens_alike (s := Source.ofText p.file text) rfl
    refine ⟨_, summary, checked, printed, ?_⟩
    rw [show Command.carryOut i { flags with tokens := true } w p c =
        Command.printTokens p.file c from rfl, Command.printTokens_status read,
      Script.exists_lexical_iff, ne_eq, ne_eq, alike.failure_eq_none_iff]

/-- A file that ends in an open string, after a module that closes under another name. It is checked
    by a path that leads up and down again. -/
theorem lexical_failures_agree_open_string :
    let text : Text :=
      "@module m: @scene s: select \x7b \"on\" => s \x7d; @end-module n \"open"
    let s := Source.ofText "f" text
    let console : Console :=
      { disk := { directory := "/d", nodes := [("/d", .folder), ("/d/f", .file text)] } }
    let plan : Plan := ⟨"../d/./f", ⟨"m", "s"⟩, [], [], 0⟩
    let invocation : Invocation := { arguments := [], time := "", id := "v" }
    (Script.parse s).2.map Diagnostic.severity = [.error, .warning] ∧
    (∃ f, s.tokens.failure = some f ∧ ∃ before d after, (Script.parse s).2 = before ++ d :: after ∧
      d.problem.code = f.code ∧ d.pos = ⟨1, 58⟩ ∧ after.length ≤ 1 ∧
      ∀ e ∈ after, e.severity = .warning) ∧
    console.disk.Settled ∧ console.disk.read plan.file = .ok text ∧
    ∃ found, (console.disk.check plan.file).1 = .ok found ∧
      (Command.carryOut invocation { tokens := true } ⟨.warn, .json, .out⟩ plan console).1 = 1 ∧
      ∃ d ∈ found, d.problem.code = .lexical := by
  intro text s console plan invocation
  have settled : console.disk.Settled :=
    ⟨by decide +kernel, by decide +kernel, by decide +kernel⟩
  have read : console.disk.read plan.file = .ok text := by decide +kernel
  have status :
      (Command.carryOut invocation { tokens := true } ⟨.warn, .json, .out⟩ plan console).1 = 1 := by
    decide +kernel
  have place : (s.tokens.failure.bind Failure.report?).map (fun r => (r.place.line, r.place.column)) =
      some (1, 58) := by decide +kernel
  have told : (Script.parse s).2.map Diagnostic.severity = [.error, .warning] := by decide +kernel
  obtain ⟨parsed, commands⟩ := lexical_failures_agree
  refine ⟨told, ?_, settled, read, ?_⟩
  · cases failed : s.tokens.failure with
    | none => simp [failed] at place
    | some f =>
      obtain ⟨before, d, after, r, whole, reported, -, -, -, code, -, pos, -, warned, few⟩ :=
        (parsed "f" text none).2.2 f failed
      rw [failed] at place
      simp only [Option.bind_some, reported, Option.map_some, Option.some.injEq, Prod.mk.injEq] at place
      exact ⟨f, rfl, before, d, after, whole, code, by simpa [place] using pos, few, warned⟩
  · obtain ⟨found, summary, checked, -, agree⟩ :=
      commands invocation { tokens := true } ⟨.warn, .json, .out⟩ plan console text settled read
    exact ⟨found, checked, status, agree.mp status⟩

end Gamebook
