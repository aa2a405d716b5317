import Gamebook.Proofs.Script.Feed
import Gamebook.Proofs.Script.Findings
import Gamebook.Proofs.Source.Failing

/-! # Reading a scene token by token

A feed holds some tokens when they are what is left of its source, the one at hand first, and it has
told what was found so far. Each reader inside a scene does with a feed what is done with the tokens up
to the boundary of the scene: it comes to the same result, finds the same, and leaves the same tokens.
-/

namespace Gamebook

/-- Whether a kind can stand inside a scene. -/
def Kind.isInner (k : Kind) : Bool :=
  !k.isBoundary && k ≠ .endOfInput

namespace Reading

/-- That a feed of a file has some of its tokens ahead, the one at hand first, when some things have
    been found. Before the last token everything found has been told. -/
inductive Holds (file : Text) (all : Source.Tokens) : Feed → List Finding → List Token → Prop where
  | going {f : Feed} {fs : List Finding} {ts : List Token} (name : f.file = file)
      (isGoing : f.failed = false) (isToken : f.token.kind ≠ .endOfInput)
      (rest : f.source.tokens = { all with list := ts }) (early : ∀ x ∈ fs, x.atEnd = false)
      (told : f.told = fs.map (Finding.diagnostic file)) : Holds file all f fs (f.token :: ts)
  | ended {f : Feed} {fs : List Finding} (name : f.file = file) (isEnd : f.token = all.last)
      (failed : f.failed = all.failure.isSome) (told : f.told = diagnostics file all fs) :
    Holds file all f fs []

section Diagnostics

variable (file : Text) (all : Source.Tokens) {fs : List Finding} {x : Finding}

theorem diagnostics_of_early (early : ∀ x ∈ fs, x.atEnd = false) :
    diagnostics file all fs = fs.map (Finding.diagnostic file) ++
      all.failure.toList.map (failureDiagnostic file all.last) := by
  have kept : fs.filter (fun x => !x.atEnd) = fs := by simpa using early
  have none : fs.filter (fun x => x.atEnd && x.severity = .warning) = [] := by
    refine List.filter_eq_nil_iff.mpr fun x member => ?_
    simp [early x member]
  unfold diagnostics
  split
  · next ended => simp [ended]
  · next failed => simp [failed, kept, none]

theorem diagnostics_concat_error (fs : List Finding) (late : x.atEnd = true) (isError : x.severity = .error) :
    diagnostics file all (fs ++ [x]) =
      diagnostics file all fs ++ if all.failure.isSome then [] else [Finding.diagnostic file x] := by
  unfold diagnostics
  split
  · next ended => simp [ended]
  · next failed => simp [failed, late, isError]

theorem diagnostics_concat_warning (fs : List Finding) (late : x.atEnd = true) (isWarning : x.severity = .warning) :
    diagnostics file all (fs ++ [x]) = diagnostics file all fs ++ [Finding.diagnostic file x] := by
  unfold diagnostics
  split
  · next ended => simp
  · next failed => simp [late, isWarning]

end Diagnostics

namespace Holds

variable {file : Text} {all : Source.Tokens} {f : Feed} {fs : List Finding} {t : Token}
  {ts : List Token}

theorem token_eq (holds : Holds file all f fs ts) : f.token = ts.headD all.last := by
  cases holds with
  | going name isGoing isToken rest early told => rfl
  | ended name isEnd failed told => exact isEnd

theorem kind_ne_end (holds : Holds file all f fs (t :: ts)) : t.kind ≠ .endOfInput := by
  cases holds with
  | going name isGoing isToken rest early told => exact isToken

/-- Taking a token from a source with more ahead. -/
theorem of_next (name : f.file = file) (isGoing : f.failed = false)
    (rest : f.source.tokens = { all with list := ts }) (early : ∀ x ∈ fs, x.atEnd = false)
    (told : f.told = fs.map (Finding.diagnostic file)) : Holds file all f.advance fs ts := by
  have final := diagnostics_of_early file all early
  unfold Feed.advance
  rw [if_neg (by simp [isGoing])]
  dsimp only
  cases failed : f.source.next.failure with
  | some failure =>
    rw [Source.tokens_of_failed failed] at rest
    obtain ⟨list, last, failure'⟩ := all
    cases rest
    exact .ended name rfl rfl (by simp [final, told, name])
  | none =>
    by_cases isEnd : f.source.next.token.kind = .endOfInput
    · rw [Source.tokens_of_ended failed isEnd] at rest
      obtain ⟨list, last, failure'⟩ := all
      cases rest
      exact .ended name rfl isGoing (by simp [final, told])
    · rw [Source.tokens_of_more failed isEnd] at rest
      obtain ⟨list, last, failure'⟩ := all
      simp only [Source.Tokens.mk.injEq] at rest
      obtain ⟨rfl, rfl, rfl⟩ := rest
      exact .going (f := { f with source := f.source.next.source, token := f.source.next.token })
        name isGoing isEnd rfl early told

theorem advance (holds : Holds file all f fs (t :: ts)) : Holds file all f.advance fs ts := by
  cases holds with
  | going name isGoing isToken rest early told => exact of_next name isGoing rest early told

theorem error (holds : Holds file all f fs ts) (pos : Pos) (problem : Problem) :
    Holds file all (f.error pos problem) (fs ++ [⟨.error, pos, problem, ts.isEmpty⟩]) ts := by
  unfold Feed.error
  cases holds with
  | going name isGoing isToken rest early told =>
    rw [if_neg (by simp [isGoing])]
    refine .going (f := f.tell .error pos problem) name isGoing isToken rest ?_ ?_
    · exact List.forall_mem_append.mpr ⟨early, by simp⟩
    · simp [Feed.tell, told, Finding.diagnostic, name]
  | ended name isEnd failed told =>
    have concat := diagnostics_concat_error file all fs
      (x := ⟨.error, pos, problem, true⟩) rfl rfl
    rw [← failed] at concat
    split
    · next here =>
      exact .ended name isEnd failed (by simp [concat, here, told])
    · next here =>
      refine .ended name isEnd failed ?_
      simp [concat, here, Feed.tell, told, Finding.diagnostic, name]

theorem warn (holds : Holds file all f fs ts) (pos : Pos) (problem : Problem) :
    Holds file all (f.tell .warning pos problem) (fs ++ [⟨.warning, pos, problem, ts.isEmpty⟩]) ts := by
  cases holds with
  | going name isGoing isToken rest early told =>
    refine .going (f := f.tell .warning pos problem) name isGoing isToken rest ?_ ?_
    · exact List.forall_mem_append.mpr ⟨early, by simp⟩
    · simp [Feed.tell, told, Finding.diagnostic, name]
  | ended name isEnd failed told =>
    refine .ended name isEnd failed ?_
    have concat := diagnostics_concat_warning file all fs
      (x := ⟨.warning, pos, problem, true⟩) rfl rfl
    simp [concat, Feed.tell, told, Finding.diagnostic, name]

end Holds

/-- That a reader has come to a result, with a feed that holds what was found and what is left. -/
def Leaves {α : Type} (file : Text) (all : Source.Tokens) (run : Option (Option α × Feed))
    (result : Option α) (fs : List Finding) (ts : List Token) : Prop :=
  ∃ g, run = some (result, g) ∧ Holds file all g fs ts

namespace Leaves

variable {α β : Type} {file : Text} {all : Source.Tokens} {f : Feed} {fs gs : List Finding}
  {ts us : List Token} {x : Pull α} {a : α} {a? : Option α} {b? : Option β}

theorem pure (a : α) (holds : Holds file all f fs ts) :
    Leaves file all ((Pure.pure a : Pull α).on f) (some a) fs ts :=
  ⟨f, rfl, holds⟩

theorem failure (holds : Holds file all f fs ts) :
    Leaves file all ((Alternative.failure : Pull α).on f) none fs ts :=
  ⟨f, rfl, holds⟩

theorem bind {next : α → Pull β} (first : Leaves file all (x.on f) (some a) fs ts)
    (more : ∀ g, Holds file all g fs ts → Leaves file all ((next a).on g) b? gs us) :
    Leaves file all ((x >>= next).on f) b? gs us := by
  obtain ⟨g, run, holds⟩ := first
  rw [Pull.on_bind_some run]
  exact more g holds

theorem bind_none {next : α → Pull β} (first : Leaves file all (x.on f) none fs ts) :
    Leaves file all ((x >>= next).on f) none fs ts := by
  obtain ⟨g, run, holds⟩ := first
  exact ⟨g, Pull.on_bind_none run, holds⟩

theorem attempt_bind {next : Option α → Pull β} (first : Leaves file all (x.on f) a? fs ts)
    (more : ∀ g, Holds file all g fs ts → Leaves file all ((next a?).on g) b? gs us) :
    Leaves file all ((Pull.attempt x >>= next).on f) b? gs us := by
  obtain ⟨g, run, holds⟩ := first
  rw [Pull.on_attempt_bind run]
  exact more g holds

end Leaves

/-! ## Inside a scene -/

/-- The tokens of a file with a boundary, before which a scene is read. -/
structure Stretch where
  file : Text
  all : Source.Tokens
  boundary : List Token
  ends : all.last.kind = .endOfInput
  bounds : ∀ t ∈ boundary.head?, t.kind.isBoundary = true

namespace Stretch

variable (p : Stretch)

/-- The token behind the scene. -/
def stop : Token :=
  p.boundary.headD p.all.last

/-- That a feed has some tokens of the scene ahead. -/
abbrev Before (f : Feed) (fs : List Finding) (ts : List Token) : Prop :=
  Holds p.file p.all f fs (ts ++ p.boundary)

theorem stop_kind : p.stop.kind = .endOfInput ↔ p.boundary = [] := by
  unfold stop
  cases here : p.boundary with
  | nil => simp [p.ends]
  | cons t rest =>
    have bounds := p.bounds t (by simp [here])
    refine ⟨fun isEnd => ?_, by simp⟩
    rw [List.headD_cons] at isEnd
    rw [isEnd] at bounds
    cases bounds

theorem stop_bounds : p.stop.kind = .endOfInput ∨ p.stop.kind.isBoundary = true := by
  unfold stop
  cases here : p.boundary with
  | nil => exact .inl p.ends
  | cons t rest => exact .inr (p.bounds t (by simp [here]))

theorem stop_ne {k : Kind} (inner : k.isInner = true) : p.stop.kind ≠ k := by
  rintro rfl
  rcases p.stop_bounds with isEnd | bounds
  · simp [Kind.isInner, isEnd] at inner
  · simp [Kind.isInner, bounds] at inner

theorem wrong_atEnd (ts : List Token) (pos : Pos) (problem : Problem) :
    wrong p.stop ts pos problem = ⟨.error, pos, problem, (ts ++ p.boundary).isEmpty⟩ := by
  cases ts with
  | nil => cases here : p.boundary <;> simp [wrong, p.stop_kind, here]
  | cons t ts => simp [wrong]

end Stretch

/-- That a reader does with a feed what is done with the tokens of a scene. -/
inductive Reads {α : Type} (p : Stretch) (fs : List Finding) (ts : List Token)
    (run : Option (Option α × Feed)) : Except Finding (α × List Token) → Prop where
  | read {a : α} {rest : List Token} (suffix : rest <:+ ts)
      (leaves : Leaves p.file p.all run (some a) fs (rest ++ p.boundary)) :
    Reads p fs ts run (.ok (a, rest))
  | failed {x : Finding} {left : List Token} (suffix : left <:+ ts)
      (leaves : Leaves p.file p.all run none (fs ++ [x]) (left ++ p.boundary)) :
    Reads p fs ts run (.error x)

namespace Reads

variable {α β : Type} {p : Stretch} {f : Feed} {fs : List Finding} {ts us : List Token}

theorem mono {run : Option (Option α × Feed)} {y : Except Finding (α × List Token)}
    (reads : Reads p fs us run y) (suffix : us <:+ ts) : Reads p fs ts run y := by
  cases reads with
  | read later leaves => exact .read (later.trans suffix) leaves
  | failed later leaves => exact .failed (later.trans suffix) leaves

theorem behind {t : Token} {run : Option (Option α × Feed)} {y : Except Finding (α × List Token)}
    (reads : Reads p fs ts run y) : Reads p fs (t :: ts) run y :=
  reads.mono (List.suffix_cons ..)

theorem pure (a : α) (holds : p.Before f fs ts) :
    Reads p fs ts ((Pure.pure a : Pull α).on f) (.ok (a, ts)) :=
  .read List.suffix_rfl (.pure a holds)

theorem bind_ok {x : Pull α} {next : α → Pull β} {a : α} {y : Except Finding (α × List Token)}
    {z : Except Finding (β × List Token)} (first : Reads p fs ts (x.on f) y) (read : y = .ok (a, us))
    (more : ∀ g, p.Before g fs us → Reads p fs us ((next a).on g) z) :
    Reads p fs ts ((x >>= next).on f) z := by
  subst read
  cases first with
  | read suffix leaves =>
    obtain ⟨g, run, holds⟩ := leaves
    rw [Pull.on_bind_some run]
    exact (more g holds).mono suffix

theorem bind_error {x : Pull α} {next : α → Pull β} {e : Finding}
    {y : Except Finding (α × List Token)} (first : Reads p fs ts (x.on f) y) (failed : y = .error e) :
    Reads p fs ts ((x >>= next).on f) (.error e) := by
  subst failed
  cases first with
  | failed suffix leaves => exact .failed suffix leaves.bind_none

theorem bind {x : Pull α} {next : α → Pull β} {y : Except Finding (α × List Token)}
    {then_ : α × List Token → Except Finding (β × List Token)} (first : Reads p fs ts (x.on f) y)
    (more : ∀ a g rest, p.Before g fs rest →
      Reads p fs rest ((next a).on g) (then_ (a, rest))) :
    Reads p fs ts ((x >>= next).on f) (y >>= then_) := by
  rcases y with e | ⟨a, rest⟩
  · exact first.bind_error rfl
  · exact first.bind_ok rfl fun g holds => more a g rest holds

end Reads

/-- That a reader comes to the end of a scene, or stops inside it. -/
structure Finishes {α : Type} (p : Stretch) (fs : List Finding) (ts : List Token)
    (run : Option (Option α × Feed)) (y : Option α × List Finding) : Prop where
  leaves : ∃ left, left <:+ ts ∧ (y.1.isSome → left = []) ∧
    Leaves p.file p.all run y.1 (fs ++ y.2) (left ++ p.boundary)

namespace Finishes

variable {α β : Type} {p : Stretch} {f : Feed} {fs : List Finding} {t : Token} {ts us : List Token}
  {y : Option α × List Finding} {run : Option (Option α × Feed)}

theorem done (a : α) (holds : p.Before f fs []) :
    Finishes p fs [] ((pure a : Pull α).on f) (some a, []) := by
  refine ⟨[], List.suffix_rfl, fun _ => rfl, ?_⟩
  rw [List.append_nil]
  exact .pure a holds

theorem mono (finishes : Finishes p fs us run y) (suffix : us <:+ ts) : Finishes p fs ts run y := by
  obtain ⟨left, later, whole, leaves⟩ := finishes
  exact ⟨left, later.trans suffix, whole, leaves⟩

theorem behind (finishes : Finishes p fs ts run y) : Finishes p fs (t :: ts) run y :=
  finishes.mono (List.suffix_cons ..)

theorem of_leaves {x : Finding} (leaves : Leaves p.file p.all run none (fs ++ [x]) (ts ++ p.boundary)) :
    Finishes p fs ts run (none, [x]) :=
  ⟨ts, List.suffix_rfl, fun isSome => (by cases isSome), leaves⟩

theorem of_error {x : Pull β} {next : β → Pull α} {e : Finding}
    {z : Except Finding (β × List Token)} (first : Reads p fs ts (x.on f) z) (failed : z = .error e) :
    Finishes p fs ts ((x >>= next).on f) (none, [e]) := by
  subst failed
  cases first with
  | failed suffix leaves => exact (of_leaves leaves.bind_none).mono suffix

theorem of_ok {x : Pull β} {next : β → Pull α} {b : β} {z : Except Finding (β × List Token)}
    (first : Reads p fs ts (x.on f) z) (read : z = .ok (b, us))
    (more : ∀ g, us <:+ ts → p.Before g fs us →
      Finishes p fs us ((next b).on g) y) :
    Finishes p fs ts ((x >>= next).on f) y := by
  subst read
  cases first with
  | read suffix leaves =>
    obtain ⟨g, run, holds⟩ := leaves
    rw [Pull.on_bind_some run]
    exact (more g suffix holds).mono suffix

theorem found {pos : Pos} {problem : Problem} {run : Feed → Option (Option α × Feed)}
    {result : Option α} {findings : List Finding}
    (holds : p.Before f fs ts)
    (more : ∀ {g fs}, p.Before g fs ts →
      Finishes p fs ts (run g) (result, findings)) :
    Finishes p fs ts (run (f.error pos problem)) (result, wrong p.stop ts pos problem :: findings) := by
  obtain ⟨left, later, whole, leaves⟩ := more (holds.error pos problem)
  refine ⟨left, later, whole, ?_⟩
  rw [p.wrong_atEnd]
  simpa using leaves

theorem map {x : Pull β} {b? : Option β} {findings : List Finding} (h : β → α)
    (finishes : Finishes p fs ts (x.on f) (b?, findings)) :
    Finishes p fs ts ((x >>= fun b => pure (h b)).on f) (b?.map h, findings) := by
  obtain ⟨left, later, whole, leaves⟩ := finishes
  cases b? with
  | none => exact ⟨left, later, whole, leaves.bind_none⟩
  | some b => exact ⟨left, later, whole, leaves.bind fun g holds => .pure _ holds⟩

theorem append {gs : List Finding} (finishes : Finishes p (fs ++ gs) ts run y) :
    Finishes p fs ts run (y.1, gs ++ y.2) := by
  obtain ⟨left, later, whole, leaves⟩ := finishes
  rw [List.append_assoc] at leaves
  exact ⟨left, later, whole, leaves⟩

end Finishes

section Scene

variable {p : Stretch} {f : Feed} {fs : List Finding} {t : Token} {ts : List Token}

theorem token_eq (holds : p.Before f fs ts) :
    f.token = ts.headD p.stop := by
  rw [holds.token_eq]
  cases ts with
  | nil => rfl
  | cons t ts => rfl

theorem fail_leaves {α : Type} (holds : p.Before f fs ts) (pos : Pos)
    (problem : Problem) :
    Leaves p.file p.all ((Pull.fail pos problem : Pull α).on f) none
      (fs ++ [wrong p.stop ts pos problem]) (ts ++ p.boundary) := by
  rw [p.wrong_atEnd]
  exact ⟨f.error pos problem, rfl, holds.error pos problem⟩

theorem unexpected_leaves {α : Type} (holds : p.Before f fs ts)
    (problem : Token → Problem) :
    Leaves p.file p.all ((Pull.fail f.token.pos (problem f.token) : Pull α).on f) none
      (fs ++ [unexpected p.stop ts problem]) (ts ++ p.boundary) := by
  rw [token_eq holds]
  exact fail_leaves holds ..

theorem expect_leaves_error {wanted : Kind} (inner : wanted.isInner = true) {context : String}
    (holds : p.Before f fs ts) {x : Finding}
    (failed : expect p.stop wanted context ts = .error x) :
    Leaves p.file p.all ((Pull.expect wanted context).on f) none (fs ++ [x]) (ts ++ p.boundary) := by
  rw [Pull.expect, Pull.on_token_bind]
  cases ts with
  | nil =>
    have front : f.token = p.stop := token_eq holds
    cases failed
    rw [if_neg (front ▸ p.stop_ne inner)]
    exact unexpected_leaves holds _
  | cons t rest =>
    have front : f.token = t := token_eq holds
    rw [expect] at failed
    split at failed
    · cases failed
    · next kind =>
      cases failed
      rw [if_neg (front ▸ kind)]
      exact unexpected_leaves holds _

theorem expect_leaves_ok {wanted : Kind} {context : String}
    (holds : p.Before f fs ts) {rest : List Token}
    (read : expect p.stop wanted context ts = .ok (t, rest)) :
    Leaves p.file p.all ((Pull.expect wanted context).on f) (some t) fs (rest ++ p.boundary) := by
  obtain ⟨rfl, kind⟩ := expect_eq_ok_iff.mp read
  have front : f.token = t := token_eq holds
  rw [Pull.expect, Pull.on_token_bind, front, if_pos kind]
  exact .pure t holds.advance

theorem expect_reads {wanted : Kind} (inner : wanted.isInner = true) (context : String)
    (holds : p.Before f fs ts) :
    Reads p fs ts ((Pull.expect wanted context).on f) (expect p.stop wanted context ts) := by
  cases read : expect p.stop wanted context ts with
  | error x => exact .failed List.suffix_rfl (expect_leaves_error inner holds read)
  | ok found =>
    exact .read ((expect_within ..).left _ _ read) (expect_leaves_ok holds read)

theorem accept_taken {α : Type} {next : Bool → Pull α} {k : Kind}
    (holds : p.Before f fs (t :: ts)) (kind : t.kind = k) :
    (Pull.accept k >>= next).on f = (next true).on f.advance := by
  rw [Pull.on_accept_bind, token_eq holds]
  exact if_pos kind

theorem accept_other {α : Type} {next : Bool → Pull α} {k : Kind}
    (holds : p.Before f fs (t :: ts)) (kind : t.kind ≠ k) :
    (Pull.accept k >>= next).on f = (next false).on f := by
  rw [Pull.on_accept_bind, token_eq holds]
  exact if_neg kind

theorem accept_stop {α : Type} {next : Bool → Pull α} {k : Kind}
    (holds : p.Before f fs []) (inner : k.isInner = true) :
    (Pull.accept k >>= next).on f = (next false).on f := by
  rw [Pull.on_accept_bind, token_eq holds]
  exact if_neg (p.stop_ne inner)

/-- What a reader of a list comes to when some elements have been read before. -/
def prepended {α : Type} (seen : List α) (y : Except Finding (List α × List Token)) :
    Except Finding (List α × List Token) := do
  let (found, rest) ← y
  return (seen ++ found, rest)

theorem prepended_ok {α : Type} (seen found : List α) (rest : List Token) :
    prepended seen (.ok (found, rest)) = .ok (seen ++ found, rest) :=
  rfl

theorem prepended_nil {α : Type} (y : Except Finding (List α × List Token)) :
    prepended [] y = y := by
  cases y with
  | error x => rfl
  | ok found => rfl

theorem prepended_cons {α : Type} (seen : List α) (a : α)
    (y : Except Finding (List α × List Token)) :
    prepended seen (do let (found, rest) ← y; return (a :: found, rest)) =
      prepended (seen ++ [a]) y := by
  cases y with
  | error x => rfl
  | ok found => simp [prepended, bind, Except.bind, pure, Except.pure]

theorem target_reads (holds : p.Before f fs ts) :
    Reads p fs ts (Pull.target.on f) (target p.stop ts) := by
  rw [Pull.target, Pull.on_token_bind]
  cases ts with
  | nil =>
    have front : f.token = p.stop := token_eq holds
    rw [if_neg (front ▸ p.stop_ne rfl), if_neg (front ▸ p.stop_ne rfl)]
    exact .failed List.suffix_rfl (unexpected_leaves holds _)
  | cons t rest =>
    have front : f.token = t := token_eq holds
    have held : p.Before f.advance fs rest := holds.advance
    unfold target
    dsimp only
    by_cases isName : t.kind = .name
    · rw [front, if_pos isName, if_pos isName, Pull.on_advance_bind]
      cases rest with
      | nil =>
        rw [accept_stop held rfl]
        exact (Reads.pure _ held).behind
      | cons s after =>
        dsimp only
        by_cases isScope : s.kind = .scope
        · rw [accept_taken held isScope, if_pos isScope]
          refine Reads.behind (Reads.behind ?_)
          exact (expect_reads rfl _ held.advance).bind fun scene g rest holds => .pure _ holds
        · rw [accept_other held isScope, if_neg isScope]
          exact (Reads.pure _ held).behind
    · by_cases isFile : t.kind = .fileRef
      · rw [front, if_neg isName, if_pos isFile, if_neg isName, if_pos isFile, Pull.on_advance_bind]
        refine Reads.behind ?_
        refine (expect_reads rfl _ held).bind fun _ g rest holds => ?_
        refine (expect_reads rfl _ holds).bind fun path g rest holds => ?_
        dsimp only
        by_cases blank : path.lexeme.trim.isEmpty = true
        · rw [if_pos blank, if_pos blank]
          exact .failed List.suffix_rfl (fail_leaves holds ..)
        · rw [if_neg blank, if_neg blank]
          refine (expect_reads rfl _ holds).bind fun _ g rest holds => ?_
          refine (expect_reads rfl _ holds).bind fun _ g rest holds => ?_
          refine (expect_reads rfl _ holds).bind fun module g rest holds => ?_
          refine (expect_reads rfl _ holds).bind fun _ g rest holds => ?_
          exact (expect_reads rfl _ holds).bind fun scene g rest holds => .pure _ holds
      · rw [if_neg (front ▸ isName), if_neg (front ▸ isFile), if_neg isName, if_neg isFile]
        exact .failed List.suffix_rfl (unexpected_leaves holds _)

theorem condition_reads (holds : p.Before f fs ts) :
    Reads p fs ts (Pull.condition.on f) (condition p.stop ts) := by
  refine (expect_reads rfl _ holds).bind fun _ g rest holds => ?_
  dsimp only
  cases rest with
  | nil =>
    rw [accept_stop holds rfl]
    exact (expect_reads rfl _ holds).bind fun item g rest holds => .pure _ holds
  | cons t after =>
    dsimp only
    by_cases negated : t.kind = .no
    · rw [accept_taken holds negated, if_pos negated]
      refine Reads.behind ?_
      exact (expect_reads rfl _ holds.advance).bind fun item g rest holds => .pure _ holds
    · rw [accept_other holds negated, if_neg negated]
      exact (expect_reads rfl _ holds).bind fun item g rest holds => .pure _ holds

theorem guardStep_reads (seen : List Condition) (holds : p.Before f fs ts) :
    Reads p fs ts ((Pull.loop Pull.guardStep seen).on f) (prepended seen (guard p.stop ts)) := by
  fun_induction guard p.stop ts generalizing f seen with
  | case1 ts x failed =>
    rw [Pull.on_loop, Pull.guardStep, bind_assoc]
    exact (condition_reads holds).bind_error failed
  | case2 ts c t after read comma _ ih =>
    rw [Pull.on_loop, Pull.guardStep, bind_assoc]
    refine (condition_reads holds).bind_ok read fun g holds => ?_
    rw [bind_assoc, accept_taken holds comma]
    refine Reads.behind ?_
    rw [prepended_cons]
    exact ih (seen ++ [c]) holds.advance
  | case3 ts c t after read comma =>
    rw [Pull.on_loop, Pull.guardStep, bind_assoc]
    refine (condition_reads holds).bind_ok read fun g holds => ?_
    rw [bind_assoc, accept_other holds comma, if_neg Bool.false_ne_true, bind_assoc, prepended,
      bind_assoc]
    exact (expect_reads rfl _ holds).bind fun _ g rest holds => .pure _ holds
  | case4 ts c read =>
    rw [Pull.on_loop, Pull.guardStep, bind_assoc]
    refine (condition_reads holds).bind_ok read fun g holds => ?_
    rw [bind_assoc, accept_stop holds rfl, if_neg Bool.false_ne_true, bind_assoc, prepended,
      bind_assoc]
    exact (expect_reads rfl _ holds).bind fun _ g rest holds => .pure _ holds

theorem guard_reads (holds : p.Before f fs ts) :
    Reads p fs ts (Pull.guard.on f) (guard p.stop ts) := by
  have reads := guardStep_reads [] holds
  rwa [prepended_nil] at reads

theorem optionalGuard_reads (holds : p.Before f fs ts) :
    Reads p fs ts (Pull.optionalGuard.on f) (optionalGuard p.stop ts) := by
  rw [Pull.optionalGuard, Pull.on_token_bind, token_eq holds]
  unfold optionalGuard
  split
  · exact guard_reads holds
  · exact .pure _ holds

theorem branch_reads (holds : p.Before f fs ts) :
    Reads p fs ts (Pull.branch.on f) (branch p.stop ts) := by
  rw [Pull.branch, Pull.on_token_bind, token_eq holds]
  refine (optionalGuard_reads holds).bind fun guard g rest holds => ?_
  refine (expect_reads rfl _ holds).bind fun label g rest holds => ?_
  refine (expect_reads rfl _ holds).bind fun _ g rest holds => ?_
  exact (target_reads holds).bind fun target g rest holds => .pure _ holds

theorem branchStep_reads (seen : List Branch) (holds : p.Before f fs ts) :
    Reads p fs ts ((Pull.loop Pull.branchStep seen).on f)
      (prepended seen (branches p.stop ts)) := by
  fun_induction branches p.stop ts generalizing f seen with
  | case1 ts closed =>
    rw [Pull.on_loop, Pull.branchStep, token_eq holds, if_pos closed, prepended_ok, List.append_nil]
    exact .pure _ holds
  | case2 ts opened x failed =>
    rw [Pull.on_loop, Pull.branchStep, token_eq holds, if_neg opened, bind_assoc]
    exact (branch_reads holds).bind_error failed
  | case3 ts opened b t after read comma _ ih =>
    rw [Pull.on_loop, Pull.branchStep, token_eq holds, if_neg opened, bind_assoc]
    refine (branch_reads holds).bind_ok read fun g holds => ?_
    rw [bind_assoc, accept_taken holds comma]
    refine Reads.behind ?_
    rw [prepended_cons]
    exact ih (seen ++ [b]) holds.advance
  | case4 ts opened b t after read comma =>
    rw [Pull.on_loop, Pull.branchStep, token_eq holds, if_neg opened, bind_assoc]
    refine (branch_reads holds).bind_ok read fun g holds => ?_
    rw [bind_assoc, accept_other holds comma]
    exact .pure _ holds
  | case5 ts opened b read =>
    rw [Pull.on_loop, Pull.branchStep, token_eq holds, if_neg opened, bind_assoc]
    refine (branch_reads holds).bind_ok read fun g holds => ?_
    rw [bind_assoc, accept_stop holds rfl]
    exact .pure _ holds

theorem branches_reads (holds : p.Before f fs ts) :
    Reads p fs ts (Pull.branches.on f) (branches p.stop ts) := by
  have reads := branchStep_reads [] holds
  rwa [prepended_nil] at reads

theorem select_reads (holds : p.Before f fs ts) :
    Reads p fs ts (Pull.select.on f) (select p.stop ts) := by
  refine (expect_reads rfl _ holds).bind fun _ g rest holds => ?_
  refine (branches_reads holds).bind fun bs g rest holds => ?_
  refine (expect_reads rfl _ holds).bind fun _ g rest holds => ?_
  exact (expect_reads rfl _ holds).bind fun _ g rest holds => .pure _ holds

theorem lineStep_stop (seen : List Text) (holds : p.Before f fs []) :
    Reads p fs [] ((Pull.loop Pull.lineStep seen).on f) (.ok (seen, [])) := by
  have front : f.token = p.stop := token_eq holds
  rw [Pull.on_loop, Pull.lineStep, if_neg (front ▸ p.stop_ne rfl)]
  exact .pure _ holds

theorem lineStep_reads (seen : List Text) (holds : p.Before f fs ts) :
    Reads p fs ts ((Pull.loop Pull.lineStep seen).on f) (prepended seen (.ok (lines ts))) := by
  fun_induction lines ts generalizing f seen with
  | case1 =>
    rw [prepended_ok, List.append_nil]
    exact lineStep_stop seen holds
  | case2 t isString =>
    have held : p.Before f.advance fs [] := holds.advance
    rw [Pull.on_loop, Pull.lineStep, token_eq holds, List.headD_cons, if_pos isString, bind_assoc,
      Pull.on_advance_bind, bind_assoc, accept_stop held rfl]
    refine Reads.behind ?_
    exact lineStep_stop _ held
  | case3 t isString =>
    rw [Pull.on_loop, Pull.lineStep, token_eq holds, List.headD_cons, if_neg isString, prepended_ok,
      List.append_nil]
    exact .pure _ holds
  | case4 t c rest isString more after eq ih ih' =>
    have held : p.Before f.advance fs (c :: rest) := holds.advance
    rw [Pull.on_loop, Pull.lineStep, token_eq holds, List.headD_cons, if_pos isString, bind_assoc,
      Pull.on_advance_bind, bind_assoc]
    rw [prepended_ok, List.append_cons seen t.lexeme more]
    split at eq
    · next comma =>
      rw [accept_taken held comma]
      refine Reads.behind (Reads.behind ?_)
      rw [eq] at ih
      exact ih _ held.advance
    · next comma =>
      rw [accept_other held comma]
      refine Reads.behind ?_
      rw [eq] at ih'
      exact ih' _ held
  | case5 t c rest isString =>
    rw [Pull.on_loop, Pull.lineStep, token_eq holds, List.headD_cons, if_neg isString, prepended_ok,
      List.append_nil]
    exact .pure _ holds

theorem lines_reads (holds : p.Before f fs ts) :
    Reads p fs ts (Pull.lines.on f) (.ok (lines ts)) := by
  have reads := lineStep_reads [] holds
  rwa [prepended_nil] at reads

theorem flavortext_reads (holds : p.Before f fs ts) :
    Reads p fs ts (Pull.flavortext.on f) (flavortext p.stop ts) := by
  refine (expect_reads rfl _ holds).bind fun _ g rest holds => ?_
  refine (lines_reads holds).bind_ok rfl fun g holds => ?_
  refine (expect_reads rfl _ holds).bind fun _ g rest holds => ?_
  exact (expect_reads rfl _ holds).bind fun _ g rest holds => .pure _ holds

theorem effect_reads (start : Token) (holds : p.Before f fs ts) :
    Reads p fs ts ((Pull.effect start).on f) (effect p.stop start ts) := by
  unfold Pull.effect effect
  split
  · refine (expect_reads rfl _ holds).bind fun item g rest holds => ?_
    exact (expect_reads rfl _ holds).bind fun _ g rest holds => .pure _ holds
  · refine (expect_reads rfl _ holds).bind fun item g rest holds => ?_
    exact (expect_reads rfl _ holds).bind fun _ g rest holds => .pure _ holds

theorem body_finishes (scene : Text) (draft : Draft) (inside : ∀ t ∈ ts, t.kind.isBoundary = false)
    (holds : p.Before f fs ts) :
    Finishes p fs ts ((Pull.body scene draft).on f) (body p.stop scene draft ts) := by
  have further {t : Token} {rest left : List Token} (suffix : left <:+ rest)
      (inside : ∀ u ∈ t :: rest, u.kind.isBoundary = false) :
      ∀ u ∈ left, u.kind.isBoundary = false :=
    fun u member => inside u (List.mem_cons_of_mem t (suffix.subset member))
  fun_induction body p.stop scene draft ts generalizing f fs with
  | case1 draft =>
    have front : f.token = p.stop := token_eq holds
    rw [Pull.body, Pull.on_loop, Pull.bodyStep, front, if_neg, if_neg, if_neg, if_pos p.stop_bounds]
    · exact .done draft holds
    · exact p.stop_ne rfl
    · exact p.stop_ne rfl
    · exact not_or.mpr ⟨p.stop_ne rfl, p.stop_ne rfl⟩
  | case2 draft t rest isEffect x failed =>
    rw [Pull.on_body_effect (token_eq holds) scene draft isEffect]
    exact (Finishes.of_error (effect_reads t holds.advance) failed).behind
  | case3 draft t rest isEffect e left read ih =>
    rw [Pull.on_body_effect (token_eq holds) scene draft isEffect]
    refine (Finishes.of_ok (effect_reads t holds.advance) read fun g suffix holds => ?_).behind
    exact ih (further suffix inside) holds
  | case4 draft t rest _ isStory x failed =>
    rw [Pull.on_body_flavortext (token_eq holds) scene draft isStory]
    exact (Finishes.of_error (flavortext_reads holds.advance) failed).behind
  | case5 draft t rest _ isStory told left read again result findings eq ih =>
    rw [Pull.on_body_flavortext (token_eq holds) scene draft isStory]
    refine (Finishes.of_ok (flavortext_reads holds.advance) read fun g suffix holds => ?_).behind
    rw [eq] at ih
    rw [if_pos again, Pull.on_error_bind]
    exact .found holds (ih (further suffix inside))
  | case6 draft t rest _ isStory told left read first ih =>
    rw [Pull.on_body_flavortext (token_eq holds) scene draft isStory]
    refine (Finishes.of_ok (flavortext_reads holds.advance) read fun g suffix holds => ?_).behind
    rw [if_neg first]
    exact ih (further suffix inside) holds
  | case7 draft t rest _ _ isSelect x failed =>
    rw [Pull.on_body_select (token_eq holds) scene draft isSelect]
    exact (Finishes.of_error (select_reads holds.advance) failed).behind
  | case8 draft t rest _ _ isSelect bs left read pos _ again result findings eq ih =>
    rw [Pull.on_body_select (token_eq holds) scene draft isSelect]
    refine (Finishes.of_ok (select_reads holds.advance) read fun g suffix holds => ?_).behind
    rw [eq] at ih
    simp only [again]
    rw [Pull.on_error_bind]
    exact .found holds (ih (further suffix inside))
  | case9 draft t rest _ _ isSelect bs left read first result findings eq empty ih =>
    rw [Pull.on_body_select (token_eq holds) scene draft isSelect]
    refine (Finishes.of_ok (select_reads holds.advance) read fun g suffix holds => ?_).behind
    rw [eq] at ih
    simp only [first, empty, if_true]
    rw [Pull.on_error_bind]
    exact .found holds (ih (further suffix inside))
  | case10 draft t rest _ _ isSelect bs left read first result findings eq filled ih =>
    rw [Pull.on_body_select (token_eq holds) scene draft isSelect]
    refine (Finishes.of_ok (select_reads holds.advance) read fun g suffix holds => ?_).behind
    rw [eq] at ih
    simp only [first, filled]
    exact ih (further suffix inside) holds
  | case11 draft t rest other other' other'' =>
    have front : f.token = t := token_eq holds
    have inner : ¬(f.token.kind = .endOfInput ∨ f.token.kind.isBoundary = true) := by
      rw [front]
      exact not_or.mpr ⟨holds.kind_ne_end, by simp [inside]⟩
    rw [Pull.body, Pull.on_loop, Pull.bodyStep, if_neg (front ▸ other), if_neg (front ▸ other'),
      if_neg (front ▸ other''), if_neg inner]
    exact .of_leaves (unexpected_leaves holds _)

theorem colon_leaves (context : String) (holds : p.Before f fs ts) :
    ∃ t?, Leaves p.file p.all ((Pull.expect .colon context).on f) t?
      (fs ++ (colon p.stop context ts).1) ((colon p.stop context ts).2 ++ p.boundary) := by
  unfold colon
  split
  · next t rest read =>
    refine ⟨some t, ?_⟩
    rw [List.append_nil]
    exact expect_leaves_ok holds read
  · next x failed => exact ⟨none, expect_leaves_error rfl holds failed⟩

/-- Reads the name of a scene and what it consists of. -/
def parts (stop : Token) (ts : List Token) : Option (Text × Draft) × List Finding :=
  match expect stop .name "after @scene" ts with
  | .error finding => (none, [finding])
  | .ok (name, inside) =>
    let (missingColon, inside) := colon stop "after scene name" inside
    let (draft?, findings) := body stop name.lexeme {} inside
    (draft?.map (name.lexeme, ·), missingColon ++ findings)

theorem parts_finishes (inside : ∀ t ∈ ts, t.kind.isBoundary = false)
    (holds : p.Before f fs ts) :
    Finishes p fs ts (Pull.parts.on f) (parts p.stop ts) := by
  unfold Pull.parts parts
  split
  · next x failed => exact .of_error (expect_reads rfl _ holds) failed
  · next name rest read =>
    refine .of_ok (expect_reads rfl _ holds) read fun g suffix holds => ?_
    have further := colon_suffix p.stop "after scene name" rest
    obtain ⟨t?, h, run, held⟩ := colon_leaves "after scene name" holds
    rw [Pull.on_attempt_bind run]
    have read := body_finishes name.lexeme {}
      (fun t member => inside t (suffix.subset (further.subset member))) held
    exact (read.map fun draft => (name.lexeme, draft)).append.mono further

theorem sceneWithin_eq (start stop : Token) (inside rest : List Token) :
    sceneWithin start stop inside rest =
      match parts stop inside with
      | (none, findings) => (none, findings)
      | (some (name, draft), findings) =>
        match draft.select with
        | some (_, bs) => (some ⟨name, start.pos, draft.flavortext, draft.effects, bs⟩, findings)
        | none =>
          (some ⟨name, start.pos, draft.flavortext, draft.effects, []⟩,
            findings ++ [⟨.error, start.pos, .missingSelect name, rest.isEmpty⟩]) := by
  unfold sceneWithin parts
  rcases expect stop .name "after @scene" inside with x | ⟨name, inside⟩
  · rfl
  · dsimp only
    cases (body stop name.lexeme {} (colon stop "after scene name" inside).2).1 with
    | none => rfl
    | some draft => rfl

end Scene

end Reading

end Gamebook
