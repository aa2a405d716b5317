import Gamebook.Script.Parse

/-! # What reading a script can find

Every finding is about the structure of the source. Inside a scene every finding is an error, made
at one of its tokens or at the boundary behind them; a warning arises only where a module is closed
under another name. So whether a scene was read without errors is the same as whether it was read
without findings. When all tokens have been read, a warning is found once at most.
-/

namespace Gamebook

/-- A finding that keeps the script from being played. -/
def Finding.IsError (f : Finding) : Prop :=
  f.severity = .error ∧ f.problem.code = .structural

/-- Whether a finding is a warning that was made when all tokens had been read. -/
def Finding.isLateWarning (f : Finding) : Bool :=
  f.atEnd && f.severity = .warning

/-- A finding of a reader inside a scene, where `stop` is the token after the scene. The reader has
    got to some of its tokens, and the finding is about one of them or about `stop`. -/
inductive Finding.IsWrong (stop : Token) (ts : List Token) : Finding → Prop where
  | wrong {left : List Token} {t : Token} {problem : Problem} (suffix : left <:+ ts)
      (about : t ∈ ts ++ [stop]) (structural : problem.code = .structural) :
    IsWrong stop ts (Reading.wrong stop left t.pos problem)

namespace Finding.IsWrong

variable {stop : Token} {ts us : List Token} {f : Finding}

theorem isError (isWrong : f.IsWrong stop ts) : f.IsError := by
  cases isWrong with
  | wrong suffix about structural => exact ⟨rfl, structural⟩

theorem pos_mem (isWrong : f.IsWrong stop ts) : f.pos ∈ (ts ++ [stop]).map Token.pos := by
  cases isWrong with
  | wrong suffix about structural => exact List.mem_map_of_mem about

theorem mono (suffix : us <:+ ts) (isWrong : f.IsWrong stop us) : f.IsWrong stop ts := by
  cases isWrong with
  | wrong later about structural =>
    refine .wrong (later.trans suffix) ?_ structural
    rcases List.mem_append.mp about with inside | behind
    · exact List.mem_append_left _ (suffix.subset inside)
    · exact List.mem_append_right _ behind

end Finding.IsWrong

namespace Reading

variable {stop : Token} {ts us rest : List Token}

/-- That a reader fails inside its tokens, or leaves some of them. -/
structure Within {α : Type} (stop : Token) (ts : List Token)
    (x : Except Finding (α × List Token)) : Prop where
  failed : ∀ f, x = .error f → f.IsWrong stop ts
  left : ∀ a rest, x = .ok (a, rest) → rest <:+ ts

namespace Within

variable {α β : Type}

theorem ok (a : α) (suffix : us <:+ ts) : Within stop ts (.ok (a, us)) := by
  refine ⟨fun f failed => (by cases failed), fun b rest read => ?_⟩
  cases read
  exact suffix

theorem error {f : Finding} (isWrong : f.IsWrong stop ts) :
    Within stop ts (.error f : Except Finding (α × List Token)) := by
  refine ⟨fun g failed => ?_, fun b rest read => (by cases read)⟩
  cases failed
  exact isWrong

theorem mono {x : Except Finding (α × List Token)} (suffix : us <:+ ts) (within : Within stop us x) :
    Within stop ts x :=
  ⟨fun f failed => (within.failed f failed).mono suffix,
    fun a rest read => (within.left a rest read).trans suffix⟩

theorem bind {x : Except Finding (α × List Token)}
    {next : α × List Token → Except Finding (β × List Token)} (first : Within stop ts x)
    (more : ∀ a rest, Within stop rest (next (a, rest))) : Within stop ts (x >>= next) := by
  rcases x with f | ⟨a, rest⟩
  · exact .error (first.failed f rfl)
  · exact (more a rest).mono (first.left a rest rfl)

end Within

theorem unexpected_isWrong {problem : Token → Problem}
    (structural : ∀ t, (problem t).code = .structural) :
    (unexpected stop ts problem).IsWrong stop ts := by
  refine .wrong List.suffix_rfl ?_ (structural _)
  cases ts with
  | nil => exact List.mem_cons_self
  | cons t rest => exact List.mem_cons_self

theorem expect_eq_ok_iff {wanted : Kind} {context : String} {t : Token} :
    expect stop wanted context ts = .ok (t, rest) ↔ ts = t :: rest ∧ t.kind = wanted := by
  cases ts with
  | nil => simp [expect]
  | cons head tail =>
    by_cases kind : head.kind = wanted
    · simp only [expect, kind, if_true, Except.ok.injEq, Prod.mk.injEq, List.cons.injEq]
      constructor
      · rintro ⟨rfl, rfl⟩
        exact ⟨⟨rfl, rfl⟩, kind⟩
      · rintro ⟨same, -⟩
        exact same
    · simp only [expect, kind, if_false, reduceCtorEq, List.cons.injEq, false_iff]
      rintro ⟨⟨rfl, -⟩, same⟩
      exact kind same

theorem expect_within (wanted : Kind) (context : String) :
    Within stop ts (expect stop wanted context ts) := by
  unfold expect
  split
  · split
    · exact .ok _ (List.suffix_cons ..)
    · exact .error (unexpected_isWrong fun _ => rfl)
  · exact .error (unexpected_isWrong fun _ => rfl)

theorem expect_bind_within {β : Type} {wanted : Kind} {context : String}
    {next : Token × List Token → Except Finding (β × List Token)}
    (more : ∀ t rest, Within stop (t :: rest) (next (t, rest))) :
    Within stop ts (expect stop wanted context ts >>= next) := by
  cases read : expect stop wanted context ts with
  | error f => exact .error ((expect_within wanted context).failed f read)
  | ok found =>
    obtain ⟨rfl, -⟩ := expect_eq_ok_iff.mp read
    exact more found.1 found.2

theorem target_within : Within stop ts (target stop ts) := by
  unfold target
  split
  · exact .error (unexpected_isWrong fun _ => rfl)
  · next t rest =>
    have later := List.suffix_cons t rest
    split
    · split
      · split
        · refine Within.mono ((List.suffix_cons ..).trans later) ?_
          exact (expect_within ..).bind fun _ _ => .ok _ List.suffix_rfl
        · exact .ok _ later
      · exact .ok _ later
    · split
      · refine Within.mono later ((expect_within ..).bind fun _ rest => ?_)
        -- A blank path is reported at its own token, which has been read by then.
        refine expect_bind_within fun path rest => ?_
        dsimp only
        split
        · exact .error (.wrong (List.suffix_cons path rest) List.mem_cons_self rfl)
        · refine Within.mono (List.suffix_cons ..) ((expect_within ..).bind fun _ _ => ?_)
          refine (expect_within ..).bind fun _ _ => (expect_within ..).bind fun _ _ => ?_
          refine (expect_within ..).bind fun _ _ => (expect_within ..).bind fun _ _ => ?_
          exact .ok _ List.suffix_rfl
      · exact .error (unexpected_isWrong fun _ => rfl)

theorem condition_within : Within stop ts (condition stop ts) := by
  refine (expect_within ..).bind fun _ rest => ?_
  dsimp only
  split
  · split
    · refine Within.mono (List.suffix_cons ..) ?_
      exact (expect_within ..).bind fun _ _ => .ok _ List.suffix_rfl
    · exact (expect_within ..).bind fun _ _ => .ok _ List.suffix_rfl
  · exact (expect_within ..).bind fun _ _ => .ok _ List.suffix_rfl

theorem guard_within : Within stop ts (guard stop ts) := by
  have first := @condition_within stop
  fun_induction guard stop ts with
  | case1 ts finding read => exact .error (first.failed finding read)
  | case2 ts c t after read comma _ ih =>
    refine Within.mono ((List.suffix_cons ..).trans (first.left _ _ read)) ?_
    exact ih.bind fun _ _ => .ok _ List.suffix_rfl
  | case3 ts c t after read comma =>
    refine Within.mono (first.left _ _ read) ?_
    exact (expect_within ..).bind fun _ _ => .ok _ List.suffix_rfl
  | case4 ts c read =>
    refine Within.mono (first.left _ _ read) ?_
    exact (expect_within ..).bind fun _ _ => .ok _ List.suffix_rfl

theorem branch_within : Within stop ts (branch stop ts) := by
  have guarded : Within stop ts (optionalGuard stop ts) := by
    unfold optionalGuard
    split
    · exact guard_within
    · exact .ok _ List.suffix_rfl
  refine guarded.bind fun _ _ => (expect_within ..).bind fun _ _ => ?_
  refine (expect_within ..).bind fun _ _ => target_within.bind fun _ _ => ?_
  exact .ok _ List.suffix_rfl

theorem branches_within : Within stop ts (branches stop ts) := by
  have first := @branch_within stop
  fun_induction branches stop ts with
  | case1 => exact .ok _ List.suffix_rfl
  | case2 ts open_ finding read => exact .error (first.failed finding read)
  | case3 ts open_ b t after read comma _ ih =>
    refine Within.mono ((List.suffix_cons ..).trans (first.left _ _ read)) ?_
    exact ih.bind fun _ _ => .ok _ List.suffix_rfl
  | case4 ts open_ b t after read comma => exact .ok _ (first.left _ _ read)
  | case5 ts open_ b read => exact .ok _ (first.left _ _ read)

theorem select_within : Within stop ts (select stop ts) := by
  refine (expect_within ..).bind fun _ _ => branches_within.bind fun _ _ => ?_
  refine (expect_within ..).bind fun _ _ => (expect_within ..).bind fun _ _ => ?_
  exact .ok _ List.suffix_rfl

theorem lines_suffix (ts : List Token) : (lines ts).2 <:+ ts := by
  fun_induction lines ts with
  | case1 => exact List.suffix_rfl
  | case2 => exact List.nil_suffix
  | case3 => exact List.suffix_rfl
  | case4 t c rest _ more after eq ih ih' =>
    split at eq
    · rw [eq] at ih
      exact ih.trans ⟨[t, c], rfl⟩
    · rw [eq] at ih'
      exact ih'.trans (List.suffix_cons ..)
  | case5 => exact List.suffix_rfl

theorem flavortext_within : Within stop ts (flavortext stop ts) := by
  refine (expect_within ..).bind fun _ inside => ?_
  refine Within.mono (lines_suffix inside) ((expect_within ..).bind fun _ _ => ?_)
  exact (expect_within ..).bind fun _ _ => .ok _ List.suffix_rfl

theorem effect_within (start : Token) : Within stop ts (effect stop start ts) := by
  unfold effect
  split
  · refine (expect_within ..).bind fun _ _ => (expect_within ..).bind fun _ _ => ?_
    exact .ok _ List.suffix_rfl
  · refine (expect_within ..).bind fun _ _ => (expect_within ..).bind fun _ _ => ?_
    exact .ok _ List.suffix_rfl

/-- What is found in the body of a scene is found inside it. -/
theorem body_within (scene : Text) (draft : Draft) :
    ∀ f ∈ (body stop scene draft ts).2, f.IsWrong stop ts := by
  have further {t : Token} {rest left : List Token} {findings : List Finding} (suffix : left <:+ rest)
      (found : ∀ f ∈ findings, f.IsWrong stop left) :
      ∀ f ∈ findings, f.IsWrong stop (t :: rest) :=
    fun f member => (found f member).mono (suffix.trans (List.suffix_cons ..))
  have here {t : Token} {rest left : List Token} {problem : Problem} (suffix : left <:+ rest)
      (structural : problem.code = .structural) :
      (wrong stop left t.pos problem).IsWrong stop (t :: rest) :=
    .wrong (suffix.trans (List.suffix_cons ..)) List.mem_cons_self structural
  fun_induction body stop scene draft ts with
  | case1 => simp
  | case2 draft t rest _ finding read =>
    simpa using ((effect_within t).failed finding read).mono (List.suffix_cons ..)
  | case3 draft t rest _ e left read ih => exact further ((effect_within t).left _ _ read) ih
  | case4 draft t rest _ _ finding read =>
    simpa using (flavortext_within.failed finding read).mono (List.suffix_cons ..)
  | case5 draft t rest _ _ told left read _ result findings eq ih =>
    rw [eq] at ih
    have later := flavortext_within.left _ _ read
    exact List.forall_mem_cons.mpr ⟨here later rfl, further later ih⟩
  | case6 draft t rest _ _ told left read _ ih => exact further (flavortext_within.left _ _ read) ih
  | case7 draft t rest _ _ _ finding read =>
    simpa using (select_within.failed finding read).mono (List.suffix_cons ..)
  | case8 draft t rest _ _ _ bs left read first _ _ result findings eq ih =>
    rw [eq] at ih
    have later := select_within.left _ _ read
    exact List.forall_mem_cons.mpr ⟨here later rfl, further later ih⟩
  | case9 draft t rest _ _ _ bs left read _ result findings eq _ ih =>
    rw [eq] at ih
    have later := select_within.left _ _ read
    exact List.forall_mem_cons.mpr ⟨here later rfl, further later ih⟩
  | case10 draft t rest _ _ _ bs left read _ result findings eq _ ih =>
    rw [eq] at ih
    exact further (select_within.left _ _ read) ih
  | case11 => simpa using unexpected_isWrong fun _ => rfl

theorem colon_suffix (stop : Token) (context : String) (ts : List Token) :
    (colon stop context ts).2 <:+ ts := by
  unfold colon
  split
  · next read => exact (expect_within ..).left _ _ read
  · exact List.suffix_rfl

theorem colon_isError (stop : Token) (context : String) (ts : List Token) :
    ∀ f ∈ (colon stop context ts).1, f.IsError := by
  unfold colon
  split
  · simp
  · next finding failed => simpa using ((expect_within ..).failed finding failed).isError

theorem sceneWithin_isError (start stop : Token) (inside rest : List Token) :
    ∀ f ∈ (sceneWithin start stop inside rest).2, f.IsError := by
  unfold sceneWithin
  split
  · next finding failed => simpa using ((expect_within ..).failed finding failed).isError
  · next name inside read =>
    have inBody : ∀ f ∈ (body stop name.lexeme {} (colon stop "after scene name" inside).2).2,
        f.IsError := fun f member => (body_within _ _ f member).isError
    have read := List.forall_mem_append.mpr ⟨colon_isError stop "after scene name" inside, inBody⟩
    dsimp only
    split
    · exact read
    · split
      · exact read
      · refine List.forall_mem_append.mpr ⟨read, ?_⟩
        simp [Finding.IsError, Problem.code]

/-- Everything found in a scene is an error. -/
theorem scene_isError (last start : Token) (ts : List Token) :
    ∀ f ∈ (scene last start ts).2.1, f.IsError :=
  sceneWithin_isError start _ _ _

theorem closeModule_structural (name : Text) (start : Pos) (ts : List Token) :
    ∀ f ∈ (closeModule name start ts).1, f.problem.code = .structural := by
  unfold closeModule
  split
  · simp
  · split
    · dsimp only
      split
      · simp
      · simp [Problem.code]
    · simp

theorem scenes_structural (last : Token) (module : Text) (start : Pos) (seen : List Scene)
    (ts : List Token) :
    ∀ f ∈ (scenes last module start seen ts).2.1, f.problem.code = .structural := by
  have inScene (t : Token) (rest : List Token) {scene? : Option Scene} {findings : List Finding}
      {after : List Token} (read : scene last t rest = (scene?, findings, after)) :
      ∀ f ∈ findings, f.problem.code = .structural := by
    have errors := scene_isError last t rest
    rw [read] at errors
    exact fun f member => (errors f member).2
  fun_induction scenes last module start seen ts with
  | case1 => simp [Problem.code]
  | case2 seen t rest _ findings after read found more left eq _ ih =>
    rw [eq] at ih
    exact List.forall_mem_append.mpr ⟨inScene t rest read, ih⟩
  | case3 seen t rest _ findings after s read first _ found more left eq _ ih =>
    rw [eq] at ih
    refine List.forall_mem_append.mpr ⟨inScene t rest read, ?_⟩
    exact List.forall_mem_cons.mpr ⟨rfl, ih⟩
  | case4 seen t rest _ findings after s read _ found more left eq _ ih =>
    rw [eq] at ih
    exact List.forall_mem_append.mpr ⟨inScene t rest read, ih⟩
  | case5 seen t rest _ _ warnings left eq =>
    have warned := closeModule_structural module start rest
    rw [eq] at warned
    exact warned
  | case6 => simp [Problem.code]
  | case7 seen t rest _ _ _ found more left eq ih =>
    rw [eq] at ih
    exact List.forall_mem_cons.mpr ⟨rfl, ih⟩

theorem module_structural (last : Token) (file : Text) (start : Token) (ts : List Token) :
    ∀ f ∈ (module last file start ts).2.1, f.problem.code = .structural := by
  unfold module
  split
  · next finding failed => simpa using ((expect_within ..).failed finding failed).isError.2
  · next name rest read =>
    refine List.forall_mem_append.mpr ⟨fun f member => ?_, scenes_structural last _ _ _ _⟩
    exact (colon_isError last "after module name" rest f member).2

/-- Everything found in a file is about its structure. -/
theorem modules_structural (last : Token) (file : Text) (seen : List Module) (ts : List Token) :
    ∀ f ∈ (modules last file seen ts).2, f.problem.code = .structural := by
  have inModule (t : Token) (rest : List Token) {module? : Option Module} {findings : List Finding}
      {after : List Token} (read : module last file t rest = (module?, findings, after)) :
      ∀ f ∈ findings, f.problem.code = .structural := by
    have structural := module_structural last file t rest
    rwa [read] at structural
  fun_induction modules last file seen ts with
  | case1 => simp
  | case2 seen t rest _ findings after read found more eq _ ih =>
    rw [eq] at ih
    exact List.forall_mem_append.mpr ⟨inModule t rest read, ih⟩
  | case3 seen t rest _ findings after m read first _ found more eq _ ih =>
    rw [eq] at ih
    refine List.forall_mem_append.mpr ⟨inModule t rest read, ?_⟩
    exact List.forall_mem_cons.mpr ⟨rfl, ih⟩
  | case4 seen t rest _ findings after m read _ found more eq _ ih =>
    rw [eq] at ih
    exact List.forall_mem_append.mpr ⟨inModule t rest read, ih⟩
  | case5 seen t rest _ found more eq ih =>
    rw [eq] at ih
    exact List.forall_mem_cons.mpr ⟨rfl, ih⟩

/-! ## Warnings at the end -/

/-- That one thing found is a late warning at most, and none is as long as tokens are left. -/
structure WarnsOnce (fs : List Finding) (left : List Token) : Prop where
  few : (fs.filter Finding.isLateWarning).length ≤ 1
  none : left ≠ [] → fs.filter Finding.isLateWarning = []

namespace WarnsOnce

variable {fs gs : List Finding} {left : List Token}

theorem late_eq_nil (errors : ∀ f ∈ fs, f.severity = .error) :
    fs.filter Finding.isLateWarning = [] := by
  refine List.filter_eq_nil_iff.mpr fun f member => ?_
  simp [Finding.isLateWarning, errors f member]

theorem of_errors (errors : ∀ f ∈ fs, f.severity = .error) : WarnsOnce fs left := by
  have none := late_eq_nil errors
  exact ⟨by simp [none], fun _ => none⟩

theorem append (errors : ∀ f ∈ fs, f.severity = .error) (warns : WarnsOnce gs left) :
    WarnsOnce (fs ++ gs) left := by
  have same : (fs ++ gs).filter Finding.isLateWarning = gs.filter Finding.isLateWarning := by
    rw [List.filter_append, late_eq_nil errors, List.nil_append]
  exact ⟨same ▸ warns.few, same ▸ warns.none⟩

theorem cons {f : Finding} (isError : f.severity = .error) (warns : WarnsOnce gs left) :
    WarnsOnce (f :: gs) left := by
  have errors : ∀ g ∈ [f], g.severity = .error := by simpa using isError
  exact append errors warns

/-- After some findings others may follow, unless they are made at the end too. -/
theorem then_append (first : WarnsOnce fs left) (second : WarnsOnce gs [])
    (ended : left = [] → ∀ f ∈ gs, f.severity = .error) : WarnsOnce (fs ++ gs) [] := by
  refine ⟨?_, by simp⟩
  rw [List.filter_append, List.length_append]
  by_cases atEnd : left = []
  · rw [late_eq_nil (ended atEnd)]
    exact first.few
  · rw [first.none atEnd, List.length_nil, Nat.zero_add]
    exact second.few

end WarnsOnce

theorem closeModule_warnsOnce (name : Text) (start : Pos) (ts : List Token) :
    WarnsOnce (closeModule name start ts).1 (closeModule name start ts).2 := by
  unfold closeModule
  split
  · exact .of_errors (by simp)
  · next closing rest =>
    split
    · dsimp only
      split
      · exact .of_errors (by simp)
      · refine ⟨List.length_filter_le .., fun more => ?_⟩
        -- Tokens are left after the name, so the warning is not a late one.
        cases rest with
        | nil => exact absurd rfl more
        | cons t rest => rfl
    · exact .of_errors (by simp)

theorem scenes_warnsOnce (last : Token) (module : Text) (start : Pos) (seen : List Scene)
    (ts : List Token) :
    WarnsOnce (scenes last module start seen ts).2.1 (scenes last module start seen ts).2.2 := by
  have inScene (t : Token) (rest : List Token) {scene? : Option Scene} {findings : List Finding}
      {after : List Token} (read : scene last t rest = (scene?, findings, after)) :
      ∀ f ∈ findings, f.severity = .error := by
    have errors := scene_isError last t rest
    rw [read] at errors
    exact fun f member => (errors f member).1
  fun_induction scenes last module start seen ts with
  | case1 => exact .of_errors (by simp)
  | case2 seen t rest _ findings after read found more left eq _ ih =>
    rw [eq] at ih
    exact ih.append (inScene t rest read)
  | case3 seen t rest _ findings after s read first _ found more left eq _ ih =>
    rw [eq] at ih
    exact (ih.cons rfl).append (inScene t rest read)
  | case4 seen t rest _ findings after s read _ found more left eq _ ih =>
    rw [eq] at ih
    exact ih.append (inScene t rest read)
  | case5 seen t rest _ _ warnings left eq =>
    have warns := closeModule_warnsOnce module start rest
    rwa [eq] at warns
  | case6 => exact .of_errors (by simp)
  | case7 seen t rest _ _ _ found more left eq ih =>
    rw [eq] at ih
    exact ih.cons rfl

theorem module_warnsOnce (last : Token) (file : Text) (start : Token) (ts : List Token) :
    WarnsOnce (module last file start ts).2.1 (module last file start ts).2.2 := by
  unfold module
  split
  · next finding failed =>
    have isError := ((expect_within ..).failed finding failed).isError.1
    exact .of_errors (by simpa using isError)
  · next name rest read =>
    exact (scenes_warnsOnce ..).append fun f member => (colon_isError last _ rest f member).1

/-- A file is closed by a warning at most once, since nothing is read after its last token. -/
theorem modules_warnsOnce (last : Token) (file : Text) (seen : List Module) (ts : List Token) :
    WarnsOnce (modules last file seen ts).2 [] := by
  have inModule (t : Token) (rest : List Token) {module? : Option Module} {findings : List Finding}
      {after : List Token} (read : module last file t rest = (module?, findings, after)) :
      WarnsOnce findings after := by
    have warns := module_warnsOnce last file t rest
    rwa [read] at warns
  have ended {seen found : List Module} {after : List Token} {more : List Finding}
      (eq : modules last file seen after = (found, more)) (none : after = []) :
      ∀ f ∈ more, f.severity = .error := by
    rw [none, modules] at eq
    cases eq
    simp
  fun_induction modules last file seen ts with
  | case1 => exact .of_errors (by simp)
  | case2 seen t rest _ findings after read found more eq _ ih =>
    rw [eq] at ih
    exact (inModule t rest read).then_append ih (ended eq)
  | case3 seen t rest _ findings after m read first _ found more eq _ ih =>
    rw [eq] at ih
    exact (inModule t rest read).then_append (ih.cons rfl) fun none =>
      List.forall_mem_cons.mpr ⟨rfl, ended eq none⟩
  | case4 seen t rest _ findings after m read _ found more eq _ ih =>
    rw [eq] at ih
    exact (inModule t rest read).then_append ih (ended eq)
  | case5 seen t rest _ found more eq ih =>
    rw [eq] at ih
    exact ih.cons rfl

end Reading

end Gamebook
