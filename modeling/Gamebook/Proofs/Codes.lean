import Gamebook.Loader
import Gamebook.Proofs.Script.Findings
import Gamebook.Proofs.Source.Failing

/-! # The codes of failures

The code of a failure is the code of its outermost problem. What wraps a failure decides its code,
and giving a failure a place does not change it. A file that was read but cannot be played fails
with a lexical or a structural code, and a scene that a script lacks with an unresolved one. So the
code of a failure tells at which point of a session it arose.
-/

namespace Gamebook

namespace Failure

@[simp] theorem code_because (p : Problem) (cause : Failure) : (because p cause).code = p.code :=
  rfl

@[simp] theorem code_ofReport (r : Report) : (ofReport r).code = r.problem.code :=
  rfl

theorem report?_dropWhile (f : Failure) :
    report? (f.dropWhile fun link => link.report?.isNone) = f.report? := by
  induction f with
  | nil => rfl
  | cons link rest ih =>
    cases first : link.report? with
    | none => simpa [report?, List.findSome?_cons, first] using ih
    | some r => simp [report?, first]

/-- Giving a failure a place keeps its code. -/
@[simp] theorem code_placed (place : Place) (f : Failure) : (f.placed place).code = f.code := by
  unfold placed
  split
  · next r causes from_ =>
    split
    · have same := report?_dropWhile f
      rw [from_] at same
      simp only [code, ← same]
      rfl
    · rfl
  · rfl

end Failure

namespace Source

/-- A source that has not failed and will not break off. -/
def Sound (s : Source) : Prop :=
  s.failed = none ∧ s.broken = none

/-- The tokens of a sound source end without a failure or with a lexical one. -/
theorem tokens_failure_code {s : Source} (sound : s.Sound) {f : Failure}
    (failed : s.tokens.failure = some f) : f.code = .lexical := by
  cases isScanning_of_tokens sound.1 failed with
  | rejected r lexical => exact lexical
  | interrupted file ends =>
    rw [sound.2] at ends
    cases ends

theorem sound_ofText (file text : Text) : (ofText file text).Sound :=
  ⟨rfl, rfl⟩

end Source

namespace Diagnostic

/-- The failure that findings make up has the code of one of the errors among them. -/
theorem exists_code_of_failure? {ds : List Diagnostic} {f : Failure}
    (failed : failure? ds = some f) :
    ∃ d ∈ ds, f.code = d.problem.code := by
  have among : ∀ d ∈ errors ds, d ∈ ds := fun d member => (List.mem_filter.mp member).1
  unfold failure? at failed
  split at failed
  · cases failed
  · next d only =>
    cases failed
    exact ⟨d, among d (by simp [only]), rfl⟩
  · next d more _ only =>
    cases failed
    exact ⟨d, among d (by simp [only]), rfl⟩

end Diagnostic

namespace Script

/-- Everything that is wrong with a sound source is a lexical or a structural fault. -/
theorem parse_code {s : Source} (sound : s.Sound) :
    ∀ d ∈ (parse s).2, d.problem.code = .lexical ∨ d.problem.code = .structural := by
  have structural := Reading.modules_structural s.tokens.last s.file [] s.tokens.list
  intro d member
  simp only [parse, ofTokens, Reading.diagnostics] at member
  split at member
  · obtain ⟨finding, found, rfl⟩ := List.mem_map.mp member
    exact .inr (structural finding found)
  · next failure failed =>
    rcases List.mem_append.mp member with before | after
    · obtain ⟨finding, found, rfl⟩ := List.mem_map.mp before
      exact .inr (structural finding (List.mem_filter.mp found).1)
    · rcases List.mem_cons.mp after with rfl | later
      · have lexical := Source.tokens_failure_code sound failed
        left
        unfold Reading.failureDiagnostic
        split
        · next r here =>
          simpa [Failure.code, here] using lexical
        · rfl
      · obtain ⟨finding, found, rfl⟩ := List.mem_map.mp later
        exact .inr (structural finding (List.mem_filter.mp found).1)

theorem find_eq_ofReport {s : Script} {module scene : Text} {f : Failure}
    (failed : s.find module scene = .error f) : ∃ r, f = .ofReport r := by
  unfold find at failed
  dsimp only at failed
  split at failed
  · cases failed
    exact ⟨_, rfl⟩
  · split at failed
    · cases failed
      exact ⟨_, rfl⟩
    · cases failed

/-- A scene that is not found fails with an unresolved code. -/
theorem find_code {s : Script} {module scene : Text} {f : Failure}
    (failed : s.find module scene = .error f) :
    f.code = .unresolvedModule ∨ f.code = .unresolvedScene := by
  unfold find at failed
  dsimp only at failed
  split at failed
  · cases failed
    exact .inl rfl
  · split at failed
    · cases failed
      exact .inr rfl
    · cases failed

end Script

namespace Loaded

/-- A file that cannot be played has a lexical or a structural fault. -/
theorem ofText_failure_code {path text : Text} {f : Failure}
    (failed : (ofText path text).failure = some f) : f.code = .lexical ∨ f.code = .structural := by
  obtain ⟨d, member, code⟩ := Diagnostic.exists_code_of_failure? failed
  rw [code]
  exact Script.parse_code (Source.sound_ofText path text) d member

end Loaded

end Gamebook
