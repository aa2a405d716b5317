import Gamebook.Proofs.Source.Written

/-! # How reading tokens can fail

A source is read alike whatever the name of its file: the same tokens, up to the same end or up to
a failure in the same place. Every failure is reported with a code of its own, which says whether
the text is no sequence of tokens or could not be read on.
-/

namespace Gamebook

/-- That a failure says that a text is no sequence of tokens, or that it broke off. -/
inductive Failure.IsScanning (broken : Option Failure) : Failure → Prop where
  | rejected (r : Report) (lexical : r.problem.code = .lexical) : IsScanning broken (.ofReport r)
  | interrupted (file : Text) {cause : Failure} (ends : broken = some cause) :
    IsScanning broken (.because (.brokenSource file) cause)

theorem Failure.IsScanning.exists_report {broken : Option Failure} {f : Failure}
    (scanning : f.IsScanning broken) :
    ∃ r causes, f = .report r :: causes ∧
      (r.problem.code = .lexical ∨ r.problem.code = .transfer) := by
  cases scanning with
  | rejected r lexical => exact ⟨r, [], rfl, .inl lexical⟩
  | interrupted file ends => exact ⟨_, _, rfl, .inr rfl⟩

/-- Two results of reading a token, for files of different names. -/
inductive Scan.Alike (broken : Option Failure) (file : Text) : Scan → Scan → Prop where
  | read (token : Token) {source : Source} (fresh : source.failed = none)
      (same : source.broken = broken) :
    Alike broken file ⟨token, none, source⟩ ⟨token, none, { source with file }⟩
  | failed {token : Token} {f f' : Failure} {source source' : Source}
      (isEnd : token.kind = .endOfInput) (scanning : f.IsScanning broken) :
    Alike broken file ⟨token, some f, source⟩ ⟨token, some f', source'⟩

namespace Scan.Alike

variable {broken : Option Failure} {file : Text} {r r' : Scan}

theorem of_read (alike : Alike broken file r r') (read : r.failure = none) :
    r'.failure = none ∧ r'.token = r.token ∧ r'.source = { r.source with file } ∧
      r.source.failed = none ∧ r.source.broken = broken := by
  cases alike with
  | read token fresh same => exact ⟨rfl, rfl, rfl, fresh, same⟩
  | failed isEnd scanning => cases read

theorem of_failed (alike : Alike broken file r r') {f : Failure} (failed : r.failure = some f) :
    r.token.kind = .endOfInput ∧ f.IsScanning broken ∧ r'.token = r.token ∧
      ∃ f', r'.failure = some f' := by
  cases alike with
  | read token fresh => cases failed
  | failed isEnd scanning =>
    cases failed
    exact ⟨isEnd, scanning, rfl, _, rfl⟩

end Scan.Alike

namespace Source

/-- Two readings of a source to its end, for files of different names. -/
inductive Tokens.Alike (broken : Option Failure) : Tokens → Tokens → Prop where
  | ended (list : List Token) {last : Token} (isEnd : last.kind = .endOfInput) :
    Alike broken ⟨list, last, none⟩ ⟨list, last, none⟩
  | failed (list : List Token) {last : Token} {f f' : Failure} (isEnd : last.kind = .endOfInput)
      (scanning : f.IsScanning broken) : Alike broken ⟨list, last, some f⟩ ⟨list, last, some f'⟩

namespace Tokens.Alike

variable {broken : Option Failure} {ts ts' : Tokens}

theorem cons (alike : Alike broken ts ts') (t : Token) :
    Alike broken { ts with list := t :: ts.list } { ts' with list := t :: ts'.list } := by
  cases alike with
  | ended list isEnd => exact .ended _ isEnd
  | failed list isEnd scanning => exact .failed _ isEnd scanning

theorem last_kind (alike : Alike broken ts ts') : ts.last.kind = .endOfInput := by
  cases alike with
  | ended list isEnd => exact isEnd
  | failed list isEnd scanning => exact isEnd

theorem isScanning (alike : Alike broken ts ts') {f : Failure} (failed : ts.failure = some f) :
    f.IsScanning broken := by
  cases alike with
  | ended list isEnd => cases failed
  | failed list isEnd scanning =>
    cases failed
    exact scanning

theorem failure_eq_none_iff (alike : Alike broken ts ts') : ts.failure = none ↔ ts'.failure = none := by
  cases alike with
  | ended list isEnd => simp
  | failed list isEnd scanning => simp

end Tokens.Alike

variable {s : Source} {file : Text}

theorem reject_alike {problem : Problem} (lexical : problem.code = .lexical) (at_ : Pos)
    (span rest : List Rune) :
    Scan.Alike s.broken file (s.reject problem at_ span rest)
      (reject { s with file } problem at_ span rest) :=
  .failed rfl (.rejected _ lexical)

theorem interrupt_alike {cause : Failure} (ends : s.broken = some cause) (span : List Rune) :
    Scan.Alike s.broken file (s.interrupt cause span) (interrupt { s with file } cause span) :=
  .failed rfl (.interrupted _ ends)

theorem settle_alike {span rest : List Rune} {result result' : Scan}
    (alike : Scan.Alike s.broken file result result') :
    Scan.Alike s.broken file (s.settle span rest result) (settle { s with file } span rest result') := by
  cases rest with
  | cons r rest => exact alike
  | nil =>
    unfold settle
    dsimp only
    split
    · next broken => exact interrupt_alike broken span
    · exact alike

variable (fresh : s.failed = none)
include fresh

theorem accept_alike (kind : Kind) (lexeme : Text) (span rest : List Rune) :
    Scan.Alike s.broken file (s.accept kind lexeme span rest)
      (accept { s with file } kind lexeme span rest) :=
  .read _ fresh rfl

theorem token_alike : Scan.Alike s.broken file s.token (token { s with file }) := by
  unfold token
  dsimp only
  split
  · split
    · next broken => exact interrupt_alike broken []
    · exact accept_alike fresh ..
  · split
    · refine settle_alike ?_
      dsimp only
      split
      · exact accept_alike fresh ..
      · exact reject_alike rfl ..
    split
    · unfold string
      dsimp only
      split
      · exact accept_alike fresh ..
      · exact reject_alike rfl ..
      · exact settle_alike (reject_alike rfl ..)
    split
    · exact settle_alike (accept_alike fresh ..)
    split
    · unfold colons
      split
      · exact accept_alike fresh ..
      · exact settle_alike (accept_alike fresh ..)
    split
    · unfold arrow
      split
      · exact accept_alike fresh ..
      · exact reject_alike rfl ..
      · exact reject_alike rfl ..
    split
    · exact accept_alike fresh ..
    · exact reject_alike rfl ..

theorem next_alike : Scan.Alike s.broken file s.next (next { s with file }) := by
  rw [next_of_fresh fresh, next_of_fresh (s := { s with file }) fresh]
  exact token_alike (s := s.trimmed) fresh

/-- The name of a file has no part in how its tokens are read. -/
theorem tokens_alike : Tokens.Alike s.broken s.tokens (tokens { s with file }) := by
  fun_induction tokens s with
  | case1 s failure here =>
    obtain ⟨isEnd, scanning, same, f', failed⟩ := (next_alike fresh).of_failed here
    rw [tokens_of_failed failed, same]
    exact .failed [] isEnd scanning
  | case2 s here isEnd =>
    obtain ⟨read, same, -, -, -⟩ := (next_alike fresh).of_read here
    rw [tokens_of_ended read (same ▸ isEnd), same]
    exact .ended [] isEnd
  | case3 s here more following ih =>
    obtain ⟨read, same, rest, fresh', broken⟩ := (next_alike fresh).of_read here
    rw [tokens_of_more read (same ▸ more), same, rest]
    rw [← broken]
    exact (ih fresh').cons s.next.token

theorem tokens_last_kind : s.tokens.last.kind = .endOfInput := by
  have alike : Tokens.Alike s.broken s.tokens s.tokens := tokens_alike fresh
  exact alike.last_kind

theorem isScanning_of_tokens {f : Failure} (failed : s.tokens.failure = some f) :
    f.IsScanning s.broken := by
  have alike : Tokens.Alike s.broken s.tokens s.tokens := tokens_alike fresh
  exact alike.isScanning failed

end Source

end Gamebook
