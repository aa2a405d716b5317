import Gamebook.Proofs.Script.Placement

/-! # Reading inside a scene does not look ahead

The readers inside a scene are given some tokens twice: once they end, and once others follow. As long
as tokens are left, a reader comes to the same result both times. Where it has got to the end of the
first ones, it has read all of them, or it fails with an error that tells so.
-/

namespace Gamebook

/-- An error that was found when all tokens had been read. -/
def Finding.IsLateError (f : Finding) : Prop :=
  f.atEnd = true ∧ f.severity = .error

namespace Reading

/-- What a reader gives for the tokens `ts` if they end, and what it gives if `more` follow them. What
    it comes to while tokens are left is the same; at the end it fails late or takes all of them. -/
inductive Firm {α : Type} (more ts : List Token) :
    Except Finding (α × List Token) → Except Finding (α × List Token) → Prop where
  | read (a : α) {rest : List Token} (begun : ts ≠ []) (going : rest ≠ []) :
    Firm more ts (.ok (a, rest)) (.ok (a, rest ++ more))
  | failed {f : Finding} (begun : ts ≠ []) (early : f.atEnd = false) :
    Firm more ts (.error f) (.error f)
  | ended (a : α) (y : Except Finding (α × List Token)) : Firm more ts (.ok (a, [])) y
  | failedAtEnd {f : Finding} (late : f.IsLateError) (y : Except Finding (α × List Token)) :
    Firm more ts (.error f) y

namespace Firm

variable {α β : Type} {more ts : List Token} {x y : Except Finding (α × List Token)}

theorem pure (a : α) (rest : List Token) : Firm more rest (.ok (a, rest)) (.ok (a, rest ++ more)) := by
  cases rest with
  | nil => exact .ended a _
  | cons t rest => exact .read a (by simp) (by simp)

theorem mono {us : List Token} (begun : ts ≠ [] → us ≠ []) (firm : Firm more ts x y) :
    Firm more us x y := by
  cases firm with
  | read a some going => exact .read a (begun some) going
  | failed some early => exact .failed (begun some) early
  | ended a y => exact .ended a y
  | failedAtEnd late y => exact .failedAtEnd late y

theorem behind {t : Token} (firm : Firm more ts x y) : Firm more (t :: ts) x y :=
  firm.mono fun _ => by simp

/-- At the end nothing is known of what is read if more tokens follow. -/
theorem anyway (firm : Firm more [] x y) (y' : Except Finding (α × List Token)) :
    Firm more ts x y' := by
  cases firm with
  | read a begun => exact absurd rfl begun
  | failed begun => exact absurd rfl begun
  | ended a => exact .ended a y'
  | failedAtEnd late => exact .failedAtEnd late y'

theorem bind {next next' : α × List Token → Except Finding (β × List Token)} (first : Firm more ts x y)
    (later : ∀ a rest, x = .ok (a, rest) → Firm more rest (next (a, rest)) (next' (a, rest ++ more))) :
    Firm more ts (x >>= next) (y >>= next') := by
  cases first with
  | read a begun going => exact (later a _ rfl).mono fun _ => begun
  | failed begun early => exact .failed begun early
  | ended a y => exact (later a [] rfl).anyway _
  | failedAtEnd late y => exact .failedAtEnd late _

theorem map (see : α → β) {p q : α × List Token} (firm : Firm more ts (.ok p) (.ok q)) :
    Firm more ts (.ok (see p.1, p.2)) (.ok (see q.1, q.2)) := by
  cases firm with
  | read a begun going => exact .read (see a) begun going
  | ended a => exact .ended (see a) _

theorem ite {c c' : Prop} [Decidable c] [Decidable c'] {x' y' : Except Finding (α × List Token)}
    (same : c ↔ c') (yes : c → Firm more ts x y) (no : ¬c → Firm more ts x' y') :
    Firm more ts (if c then x else x') (if c' then y else y') := by
  by_cases holds : c
  · rw [if_pos holds, if_pos (same.mp holds)]
    exact yes holds
  · rw [if_neg holds, if_neg (mt same.mpr holds)]
    exact no holds

end Firm

section Scene

variable {stop stop' : Token} (ends : stop.kind = .endOfInput) {ts more : List Token}
include ends

theorem wrong_late (pos : Pos) (problem : Problem) : (wrong stop [] pos problem).IsLateError :=
  ⟨by simp [wrong, ends], rfl⟩

theorem wrong_firm {α : Type} (pos : Pos) (problem : Problem) :
    Firm more ts (.error (wrong stop ts pos problem) : Except Finding (α × List Token))
      (.error (wrong stop' (ts ++ more) pos problem)) := by
  cases ts with
  | nil => exact .failedAtEnd (wrong_late ends pos problem) _
  | cons t rest => exact .failed (by simp) rfl

theorem unexpected_firm {α : Type} (problem : Token → Problem) :
    Firm more ts (.error (unexpected stop ts problem) : Except Finding (α × List Token))
      (.error (unexpected stop' (ts ++ more) problem)) := by
  cases ts with
  | nil => exact .failedAtEnd (wrong_late ends ..) _
  | cons t rest => exact .failed (by simp) rfl

theorem expect_firm (wanted : Kind) (context : String) :
    Firm more ts (expect stop wanted context ts) (expect stop' wanted context (ts ++ more)) := by
  cases ts with
  | nil => exact .failedAtEnd (wrong_late ends ..) _
  | cons t rest =>
    exact Firm.ite Iff.rfl (fun _ => (Firm.pure t rest).behind) (fun _ => unexpected_firm ends _)

theorem target_firm : Firm more ts (target stop ts) (target stop' (ts ++ more)) := by
  rcases ts with - | ⟨t, rest⟩
  · exact .failedAtEnd (wrong_late ends ..) _
  refine Firm.ite Iff.rfl (fun _ => ?_) (fun _ => Firm.ite Iff.rfl (fun _ => ?_) fun _ => ?_)
  · rcases rest with - | ⟨s, after⟩
    · exact .ended _ _
    refine Firm.ite Iff.rfl (fun _ => ?_) (fun _ => Firm.behind (.pure _ (s :: after)))
    refine Firm.behind (Firm.behind ((expect_firm ends ..).bind fun scene rest _ => ?_))
    exact .pure _ rest
  · refine Firm.behind ((expect_firm ends ..).bind fun _ _ _ => ?_)
    refine (expect_firm ends ..).bind fun path rest _ => ?_
    refine Firm.ite Iff.rfl (fun _ => wrong_firm ends ..) (fun _ => ?_)
    refine (expect_firm ends ..).bind fun _ _ _ => (expect_firm ends ..).bind fun _ _ _ => ?_
    refine (expect_firm ends ..).bind fun _ _ _ => (expect_firm ends ..).bind fun _ _ _ => ?_
    exact (expect_firm ends ..).bind fun _ rest _ => .pure _ rest
  · exact unexpected_firm ends _

theorem condition_firm : Firm more ts (condition stop ts) (condition stop' (ts ++ more)) := by
  refine (expect_firm ends ..).bind fun _ rest _ => ?_
  rcases rest with - | ⟨t, after⟩
  · exact .failedAtEnd (wrong_late ends ..) _
  refine Firm.ite Iff.rfl (fun _ => ?_) (fun _ => ?_)
  · exact Firm.behind ((expect_firm ends ..).bind fun _ rest _ => .pure _ rest)
  · exact (expect_firm ends ..).bind fun _ rest _ => .pure _ rest

theorem guard_firm : Firm more ts (guard stop ts) (guard stop' (ts ++ more)) := by
  induction size : ts.length using Nat.strongRecOn generalizing ts with
  | ind n ih =>
    rw [guard_eq stop, guard_eq stop']
    refine (condition_firm ends).bind fun c rest read => ?_
    have shorter := condition_length_lt read
    rcases rest with - | ⟨t, after⟩
    · exact .failedAtEnd (wrong_late ends ..) _
    refine Firm.ite Iff.rfl (fun _ => ?_) (fun _ => ?_)
    · have later := ih after.length (by simp only [List.length_cons] at shorter; omega) rfl
      exact Firm.behind (later.bind fun _ rest _ => .pure _ rest)
    · exact (expect_firm ends ..).bind fun _ rest _ => .pure _ rest

theorem optionalGuard_firm :
    Firm more ts (optionalGuard stop ts) (optionalGuard stop' (ts ++ more)) := by
  rcases ts with - | ⟨t, rest⟩
  · rw [optionalGuard, List.headD_nil, ends, if_neg (by decide)]
    exact .ended _ _
  exact Firm.ite Iff.rfl (fun _ => guard_firm ends) (fun _ => .pure _ (t :: rest))

theorem branch_nil :
    branch stop [] = .error (unexpected stop [] (.expected .string "as option label")) := by
  rw [branch, optionalGuard, List.headD_nil, ends, if_neg (by decide)]
  rfl

theorem branch_firm : Firm more ts (branch stop ts) (branch stop' (ts ++ more)) := by
  rcases ts with - | ⟨t, rest⟩
  · rw [branch_nil ends]
    exact .failedAtEnd (wrong_late ends ..) _
  -- The branch is placed at its first token, which both have.
  refine (optionalGuard_firm ends).bind fun _ _ _ => (expect_firm ends ..).bind fun _ _ _ => ?_
  refine (expect_firm ends ..).bind fun _ _ _ => (target_firm ends).bind fun _ rest _ => ?_
  exact .pure _ rest

theorem branches_firm : Firm more ts (branches stop ts) (branches stop' (ts ++ more)) := by
  induction size : ts.length using Nat.strongRecOn generalizing ts with
  | ind n ih =>
    rw [branches_eq stop, branches_eq stop']
    rcases ts with - | ⟨t, rest⟩
    · rw [List.headD_nil, ends, if_neg (by decide), branch_nil ends]
      exact .failedAtEnd (wrong_late ends ..) _
    refine Firm.ite Iff.rfl (fun _ => .pure _ (t :: rest)) (fun _ => ?_)
    refine (branch_firm ends).bind fun b left read => ?_
    have shorter := branch_length_lt read
    rcases left with - | ⟨u, after⟩
    · exact .ended _ _
    refine Firm.ite Iff.rfl (fun _ => ?_) (fun _ => .pure _ (u :: after))
    have later := ih after.length (by simp only [List.length_cons] at shorter size; omega) rfl
    exact Firm.behind (later.bind fun _ rest _ => .pure _ rest)

theorem select_firm : Firm more ts (select stop ts) (select stop' (ts ++ more)) := by
  refine (expect_firm ends ..).bind fun _ _ _ => (branches_firm ends).bind fun _ _ _ => ?_
  refine (expect_firm ends ..).bind fun _ _ _ => (expect_firm ends ..).bind fun _ rest _ => ?_
  exact .pure _ rest

omit ends in
theorem lines_of_ne_string {t : Token} (other : t.kind ≠ .string) (ts : List Token) :
    lines (t :: ts) = ([], t :: ts) := by
  cases ts with
  | nil => rw [lines, if_neg other]
  | cons c rest => rw [lines, if_neg other]

omit ends in
theorem lines_firm (ts : List Token) : Firm more ts (.ok (lines ts)) (.ok (lines (ts ++ more))) := by
  fun_induction lines ts with
  | case1 => exact .ended _ _
  | case2 t => exact .ended _ _
  | case3 t other =>
    rw [List.singleton_append, lines_of_ne_string other]
    exact .pure [] [t]
  | case4 t c rest isString told after eq ih ih' =>
    rw [List.cons_append, List.cons_append, lines, if_pos isString]
    split at eq
    · next comma =>
      rw [if_pos comma]
      rw [eq] at ih
      exact (ih.map (t.lexeme :: ·)).behind.behind
    · next other =>
      rw [if_neg other]
      rw [eq] at ih'
      exact (ih'.map (t.lexeme :: ·)).behind
  | case5 t c rest other =>
    rw [List.cons_append, lines_of_ne_string other]
    exact .pure [] (t :: c :: rest)

theorem flavortext_firm : Firm more ts (flavortext stop ts) (flavortext stop' (ts ++ more)) := by
  have eq (stop : Token) (ts : List Token) : flavortext stop ts =
      (expect stop .leftBrace "after flavortext" ts >>= fun opened =>
        Except.ok (lines opened.2) >>= fun told =>
        expect stop .rightBrace "to close flavortext" told.2 >>= fun closed =>
        expect stop .semicolon "after flavortext block" closed.2 >>= fun ended =>
        Except.ok (told.1, ended.2)) := rfl
  rw [eq, eq]
  refine (expect_firm ends ..).bind fun _ _ _ => (lines_firm _).bind fun _ _ _ => ?_
  refine (expect_firm ends ..).bind fun _ _ _ => (expect_firm ends ..).bind fun _ rest _ => ?_
  exact .pure _ rest

theorem effect_firm (start : Token) :
    Firm more ts (effect stop start ts) (effect stop' start (ts ++ more)) := by
  unfold effect
  split
  · refine (expect_firm ends ..).bind fun _ _ _ => (expect_firm ends ..).bind fun _ rest _ => ?_
    exact .pure _ rest
  · refine (expect_firm ends ..).bind fun _ _ _ => (expect_firm ends ..).bind fun _ rest _ => ?_
    exact .pure _ rest

end Scene

end Reading

end Gamebook
