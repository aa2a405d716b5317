import Gamebook.Proofs.Script.Stretch

/-! # Reading token by token is reading all tokens

A script is read from the list of all its tokens. Reading it from a source token by token comes to an
end, at the end of the source, with the same modules, and tells the same diagnostics in the same
order. In particular no way of going on after an error stops early, and no error is told once the
source has failed.
-/

namespace Gamebook

namespace Reading

section File

variable {file : Text} {all : Source.Tokens} (ends : all.last.kind = .endOfInput)
  {f : Feed} {fs : List Finding} {ts : List Token}
include ends

theorem skip_leaves {k : Kind} (proper : k ≠ .endOfInput) (holds : Holds file all f fs ts) :
    Leaves file all ((Pull.skip k).on f) (some ()) fs (skip k ts) := by
  rw [Pull.skip, Pull.on_accept_bind, holds.token_eq]
  cases ts with
  | nil =>
    rw [List.headD_nil, ends, if_neg proper.symm]
    exact .pure () holds
  | cons t rest =>
    rw [List.headD_cons, skip]
    split
    · exact .pure () holds.advance
    · exact .pure () holds

theorem syncTo_leaves (accepts : Kind → Bool) (holds : Holds file all f fs ts) :
    Leaves file all ((Pull.syncTo accepts).on f) (some ()) fs (seek accepts ts) := by
  induction ts generalizing f with
  | nil =>
    rw [Pull.syncTo, Pull.on_loop, Pull.syncStep, holds.token_eq, if_pos (.inl ends)]
    exact .pure () holds
  | cons t rest ih =>
    rw [Pull.syncTo, Pull.on_loop, Pull.syncStep, holds.token_eq, List.headD_cons]
    by_cases accepted : accepts t.kind = true
    · rw [if_pos (.inr accepted), seek, List.dropWhile_cons_of_neg (by simp [accepted])]
      exact .pure () holds
    · rw [if_neg (not_or.mpr ⟨holds.kind_ne_end, accepted⟩), bind_assoc, Pull.on_advance_bind]
      rw [seek, List.dropWhile_cons_of_pos (by simp [accepted])]
      exact ih holds.advance

theorem closeScene_leaves (holds : Holds file all f fs ts) :
    Leaves file all (Pull.closeScene.on f) (some ()) fs (closeScene ts) := by
  rw [Pull.closeScene, Pull.on_accept_bind, holds.token_eq]
  cases ts with
  | nil =>
    rw [List.headD_nil, ends, if_neg (by decide)]
    exact .pure () holds
  | cons t rest =>
    rw [List.headD_cons, closeScene]
    split
    · exact skip_leaves ends (by decide) holds.advance
    · exact .pure () holds

omit ends in
theorem seek_isBoundary_append (p : Stretch) (inside : ∀ t ∈ ts, t.kind.isBoundary = false) :
    seek Kind.isBoundary (ts ++ p.boundary) = p.boundary := by
  rw [seek, List.dropWhile_append_of_pos (by simpa using inside)]
  cases here : p.boundary with
  | nil => rfl
  | cons t rest => exact List.dropWhile_cons_of_neg (by simp [p.bounds t (by simp [here])])

omit ends in
theorem sceneWithin_leaves {p : Stretch} (start : Token)
    (inside : ∀ t ∈ ts, t.kind.isBoundary = false)
    (holds : p.Before f fs ts) :
    Leaves p.file p.all ((Pull.scene start).on f)
      (sceneWithin start p.stop ts (closeScene p.boundary)).1
      (fs ++ (sceneWithin start p.stop ts (closeScene p.boundary)).2) (closeScene p.boundary) := by
  obtain ⟨left, suffix, closed, leaves⟩ := parts_finishes inside holds
  rw [Pull.scene, sceneWithin_eq]
  generalize parts p.stop ts = read at closed leaves
  obtain ⟨result, findings⟩ := read
  refine leaves.attempt_bind fun g holds => ?_
  cases result with
  | none =>
    have synced := syncTo_leaves p.ends Kind.isBoundary holds
    rw [seek_isBoundary_append p fun t member => inside t (suffix.subset member)] at synced
    refine synced.bind fun g holds => ?_
    exact (closeScene_leaves p.ends holds).bind fun g holds => .failure holds
  | some found =>
    obtain rfl := closed rfl
    refine (closeScene_leaves p.ends holds).bind fun g holds => ?_
    dsimp only
    cases found.2.select with
    | some chosen => exact .pure _ holds
    | none =>
      rw [← List.append_assoc]
      exact .pure _ (holds.error ..)

theorem scene_leaves (start : Token) (holds : Holds file all f fs ts) :
    Leaves file all ((Pull.scene start).on f) (scene all.last start ts).1
      (fs ++ (scene all.last start ts).2.1) (scene all.last start ts).2.2 := by
  have bounds : ∀ t ∈ (seek Kind.isBoundary ts).head?, t.kind.isBoundary = true := by
    intro t member
    have stands := List.head?_dropWhile_not (fun t : Token => !t.kind.isBoundary) ts
    rw [show (ts.dropWhile fun t => !t.kind.isBoundary).head? = some t from member] at stands
    simpa using stands
  have inside : ∀ t ∈ ts.takeWhile fun t => !t.kind.isBoundary, t.kind.isBoundary = false := by
    intro t member
    simpa using List.mem_takeWhile_imp member
  have whole : (ts.takeWhile fun t => !t.kind.isBoundary) ++ seek Kind.isBoundary ts = ts :=
    List.takeWhile_append_dropWhile
  rw [← whole] at holds
  exact sceneWithin_leaves (p := ⟨file, all, seek Kind.isBoundary ts, ends, bounds⟩) start inside holds

theorem closeModule_leaves (name : Text) (start : Pos) (holds : Holds file all f fs ts) :
    Leaves file all ((Pull.closeModule name start).on f) (some ())
      (fs ++ (closeModule name start ts).1) (closeModule name start ts).2 := by
  rw [Pull.closeModule, Pull.on_token_bind, holds.token_eq]
  cases ts with
  | nil =>
    rw [List.headD_nil, ends, if_neg (by decide), closeModule, List.append_nil]
    exact skip_leaves ends (by decide) holds
  | cons closing rest =>
    rw [List.headD_cons, closeModule]
    by_cases named : closing.kind = .name
    · rw [if_pos named, if_pos named, Pull.on_advance_bind]
      by_cases same : closing.lexeme = name
      · rw [if_neg (not_not.mpr same), if_pos same, List.append_nil]
        exact skip_leaves ends (by decide) holds.advance
      · rw [if_pos same, if_neg same]
        exact skip_leaves ends (by decide) (holds.advance.warn ..)
    · rw [if_neg named, if_neg named, List.append_nil]
      exact skip_leaves ends (by decide) holds

theorem scenes_leaves (module : Text) (start : Pos) (seen : List Scene)
    (holds : Holds file all f fs ts) :
    Leaves file all ((Pull.scenes module start seen).on f)
      (some (scenes all.last module start seen ts).1)
      (fs ++ (scenes all.last module start seen ts).2.1)
      (scenes all.last module start seen ts).2.2 := by
  have inScene {t : Token} {rest : List Token} {f : Feed} {fs : List Finding}
      (holds : Holds file all f fs (t :: rest)) {scene? : Option Scene} {findings : List Finding}
      {after : List Token} (read : scene all.last t rest = (scene?, findings, after)) :
      Leaves file all ((Pull.scene t).on f.advance) scene? (fs ++ findings) after := by
    have leaves := scene_leaves ends t holds.advance
    rwa [read] at leaves
  fun_induction scenes all.last module start seen ts generalizing f fs with
  | case1 seen =>
    rw [Pull.scenes, Pull.on_loop, Pull.scenesStep, holds.token_eq, List.headD_nil, ends,
      if_neg (by decide), if_neg (by decide), if_pos (.inr rfl), bind_assoc, Pull.on_error_bind]
    exact .pure _ (holds.error ..)
  | case2 seen t rest kind findings after read found more left eq _ ih =>
    rw [Pull.on_scenes_start holds.token_eq module start seen kind]
    refine (inScene holds read).attempt_bind fun g holds => ?_
    rw [eq] at ih
    rw [← List.append_assoc]
    exact ih holds
  | case3 seen t rest kind findings after s read earlier same found more left eq _ ih =>
    rw [Pull.on_scenes_start holds.token_eq module start seen kind]
    refine (inScene holds read).attempt_bind fun g holds => ?_
    rw [eq] at ih
    simp only [same]
    rw [Pull.on_error_bind]
    have later := ih (holds.error s.pos (.duplicateScene s.name module earlier.pos))
    simp only [List.append_assoc, List.singleton_append] at later
    exact later
  | case4 seen t rest kind findings after s read new found more left eq _ ih =>
    rw [Pull.on_scenes_start holds.token_eq module start seen kind]
    refine (inScene holds read).attempt_bind fun g holds => ?_
    rw [eq] at ih
    simp only [new]
    rw [← List.append_assoc]
    exact ih holds
  | case5 seen t rest kind isEnd warnings left eq =>
    rw [Pull.scenes, Pull.on_loop, Pull.scenesStep, holds.token_eq, List.headD_cons, if_neg kind,
      if_pos isEnd, bind_assoc, Pull.on_advance_bind, bind_assoc]
    have closed := closeModule_leaves ends module start holds.advance
    rw [eq] at closed
    exact closed.bind fun g holds => .pure _ holds
  | case6 seen t rest kind isEnd isStart =>
    rw [Pull.scenes, Pull.on_loop, Pull.scenesStep, holds.token_eq, List.headD_cons, if_neg kind,
      if_neg isEnd, if_pos (.inl isStart), bind_assoc, Pull.on_error_bind]
    exact .pure _ (holds.error ..)
  | case7 seen t rest kind isEnd isStart found more left eq ih =>
    rw [Pull.scenes, Pull.on_loop, Pull.scenesStep, holds.token_eq, List.headD_cons, if_neg kind,
      if_neg isEnd, if_neg (not_or.mpr ⟨isStart, holds.kind_ne_end⟩), bind_assoc,
      Pull.on_error_bind, bind_assoc, Pull.on_advance_bind, bind_assoc]
    refine (syncTo_leaves ends Kind.continuesModule (holds.error ..).advance).bind fun g holds => ?_
    rw [eq] at ih
    have later := ih holds
    simp only [List.append_assoc, List.singleton_append, List.isEmpty_cons] at later
    exact later

theorem closeNameless_leaves (holds : Holds file all f fs ts) :
    Leaves file all (Pull.closeNameless.on f) (some ()) fs (closeNameless ts) := by
  rw [Pull.closeNameless, Pull.on_accept_bind, holds.token_eq]
  cases ts with
  | nil =>
    rw [List.headD_nil, ends, if_neg (by decide)]
    exact .pure () holds
  | cons t rest =>
    rw [List.headD_cons, closeNameless]
    split
    · refine (skip_leaves ends (by decide) holds.advance).bind fun g holds => ?_
      exact skip_leaves ends (by decide) holds
    · exact .pure () holds

theorem module_leaves (start : Token) (holds : Holds file all f fs ts) :
    Leaves file all ((Pull.module file start).on f) (module all.last file start ts).1
      (fs ++ (module all.last file start ts).2.1) (module all.last file start ts).2.2 := by
  -- Here the tokens go on to the end of the file.
  let p : Stretch := ⟨file, all, [], ends, by simp⟩
  rw [← List.append_nil ts] at holds
  rw [Pull.module]
  unfold module
  split
  · next x failed =>
    have first := expect_leaves_error (p := p) rfl holds failed
    rw [List.append_nil] at first
    refine first.attempt_bind fun g holds => ?_
    refine (syncTo_leaves ends Kind.boundsModule holds).bind fun g holds => ?_
    exact (closeNameless_leaves ends holds).bind fun g holds => .failure holds
  · next name rest read =>
    have first := expect_leaves_ok (p := p) holds read
    refine first.attempt_bind fun g holds => ?_
    obtain ⟨t?, leaves⟩ := colon_leaves (p := p) "after module name" holds
    refine leaves.attempt_bind fun g holds => ?_
    rw [List.append_nil] at holds
    have found := scenes_leaves ends name.lexeme start.pos [] holds
    rw [List.append_assoc] at found
    exact found.bind fun g holds => .pure _ holds

theorem modules_leaves (seen : List Module) (holds : Holds file all f fs ts) :
    Leaves file all ((Pull.modules file seen).on f) (some (modules all.last file seen ts).1)
      (fs ++ (modules all.last file seen ts).2) [] := by
  have inModule {t : Token} {rest : List Token} {f : Feed} {fs : List Finding}
      (holds : Holds file all f fs (t :: rest)) {module? : Option Module} {findings : List Finding}
      {after : List Token} (read : module all.last file t rest = (module?, findings, after)) :
      Leaves file all ((Pull.module file t).on f.advance) module? (fs ++ findings) after := by
    have leaves := module_leaves ends t holds.advance
    rwa [read] at leaves
  fun_induction modules all.last file seen ts generalizing f fs with
  | case1 seen =>
    rw [Pull.modules, Pull.on_loop, Pull.modulesStep, holds.token_eq, List.headD_nil, if_pos ends,
      List.append_nil]
    exact .pure _ holds
  | case2 seen t rest kind findings after read found more eq _ ih =>
    rw [Pull.on_modules_start holds.token_eq file seen kind]
    refine (inModule holds read).attempt_bind fun g holds => ?_
    rw [eq] at ih
    rw [← List.append_assoc]
    exact ih holds
  | case3 seen t rest kind findings after m read earlier same found more eq _ ih =>
    rw [Pull.on_modules_start holds.token_eq file seen kind]
    refine (inModule holds read).attempt_bind fun g holds => ?_
    rw [eq] at ih
    simp only [same]
    rw [Pull.on_error_bind]
    have later := ih (holds.error m.pos (.duplicateModule m.name earlier.pos))
    simp only [List.append_assoc, List.singleton_append] at later
    exact later
  | case4 seen t rest kind findings after m read new found more eq _ ih =>
    rw [Pull.on_modules_start holds.token_eq file seen kind]
    refine (inModule holds read).attempt_bind fun g holds => ?_
    rw [eq] at ih
    simp only [new]
    rw [← List.append_assoc]
    exact ih holds
  | case5 seen t rest kind found more eq ih =>
    rw [Pull.modules, Pull.on_loop, Pull.modulesStep, holds.token_eq, List.headD_cons,
      if_neg holds.kind_ne_end, if_neg kind, bind_assoc, Pull.on_error_bind, bind_assoc,
      Pull.on_advance_bind, bind_assoc]
    refine (syncTo_leaves ends _ (holds.error ..).advance).bind fun g holds => ?_
    rw [eq] at ih
    have later := ih holds
    simp only [List.append_assoc, List.singleton_append, List.isEmpty_cons] at later
    exact later

end File

end Reading

namespace Script

open Reading

/-- Reading a source token by token comes to an end at the end of the source, with the modules of the
    script and its diagnostics told. -/
theorem script_eq_parse (s : Source) (fresh : s.failed = none) :
    ∃ final, Pull.script s = some (some (parse s).1.modules, final) ∧
      final.token = s.tokens.last ∧ final.token.kind = .endOfInput ∧
      final.failed = s.tokens.failure.isSome ∧ final.told = (parse s).2 := by
  have ends := Source.tokens_last_kind fresh
  have holds : Holds s.file s.tokens (.ofSource s) [] s.tokens.list :=
    .of_next rfl rfl rfl (by simp) rfl
  obtain ⟨final, run, held⟩ := modules_leaves ends [] holds
  cases held with
  | ended name isEnd failed told => exact ⟨final, run, isEnd, isEnd ▸ ends, failed, told⟩

theorem parse?_eq_parse (s : Source) (fresh : s.failed = none) : Pull.parse? s = some (parse s) := by
  obtain ⟨final, read, -, -, -, told⟩ := script_eq_parse s fresh
  rw [Pull.parse?, read, Option.bind_some, Option.map_some, told]
  rfl

/-- A source whose tokens can be read has not failed. -/
theorem fresh_of_scanned {s : Source} (scanned : s.tokens.failure = none) : s.failed = none := by
  rw [Option.eq_none_iff_forall_ne_some]
  intro failure failed
  have again : s.next.failure = some failure := Source.call_of_failed failed 0
  rw [Source.tokens_of_failed again] at scanned
  cases scanned

end Script

/-! ## Where the tokens fail -/

/-- That a diagnostic tells that tokens could not be read. -/
def Diagnostic.IsScanning (d : Diagnostic) : Prop :=
  d.problem.code = .lexical ∨ d.problem.code = .transfer

instance : DecidablePred Diagnostic.IsScanning := fun d =>
  inferInstanceAs (Decidable (d.problem.code = .lexical ∨ d.problem.code = .transfer))

namespace Reading

theorem not_isScanning {file : Text} {fs : List Finding}
    (structural : ∀ f ∈ fs, f.problem.code = .structural) :
    ∀ d ∈ fs.map (Finding.diagnostic file), ¬d.IsScanning := by
  intro d member scanning
  obtain ⟨f, found, rfl⟩ := List.mem_map.mp member
  have code : (Finding.diagnostic file f).problem.code = .structural := structural f found
  simp [Diagnostic.IsScanning, code] at scanning

end Reading

namespace Script

open Reading

variable {s : Source}

/-- Where tokens fail, the failure is told once, and after it a warning at most. -/
theorem parse_of_failed {f : Failure} (failed : s.tokens.failure = some f) :
    ∃ before after,
      (parse s).2 = before ++ failureDiagnostic s.file s.tokens.last f :: after ∧
      (∀ d ∈ before ++ after, ¬d.IsScanning) ∧ (∀ d ∈ after, d.severity = .warning) ∧
      after.length ≤ 1 := by
  have warns := modules_warnsOnce s.tokens.last s.file [] s.tokens.list
  have structural := modules_structural s.tokens.last s.file [] s.tokens.list
  generalize found : (Reading.modules s.tokens.last s.file [] s.tokens.list).2 = fs at warns structural
  have among {p : Finding → Bool} : ∀ f ∈ fs.filter p, f.problem.code = .structural :=
    fun f member => structural f (List.mem_filter.mp member).1
  refine ⟨(fs.filter fun f => !f.atEnd).map (Finding.diagnostic s.file),
    (fs.filter Finding.isLateWarning).map (Finding.diagnostic s.file), ?_, ?_, ?_, ?_⟩
  · rw [← found]
    simp only [parse, ofTokens, Reading.diagnostics, failed]
    rfl
  · exact List.forall_mem_append.mpr ⟨not_isScanning among, not_isScanning among⟩
  · intro d member
    obtain ⟨f, late, rfl⟩ := List.mem_map.mp member
    have warning := (List.mem_filter.mp late).2
    simp only [Finding.isLateWarning, Bool.and_eq_true, decide_eq_true_eq] at warning
    exact warning.2
  · rw [List.length_map]
    exact warns.few

theorem failureDiagnostic_isScanning {f : Failure} (fresh : s.failed = none)
    (failed : s.tokens.failure = some f) :
    (failureDiagnostic s.file s.tokens.last f).IsScanning := by
  obtain ⟨r, causes, rfl, code⟩ := (Source.isScanning_of_tokens fresh failed).exists_report
  exact code

/-- Diagnostics tell of a failure to read the tokens exactly if there was one. -/
theorem exists_isScanning_iff (fresh : s.failed = none) :
    (∃ d ∈ (parse s).2, d.IsScanning) ↔ s.tokens.failure ≠ none := by
  cases failed : s.tokens.failure with
  | none =>
    have structural := modules_structural s.tokens.last s.file [] s.tokens.list
    have whole : (parse s).2 =
        (Reading.modules s.tokens.last s.file [] s.tokens.list).2.map (Finding.diagnostic s.file) := by
      simp only [parse, ofTokens, Reading.diagnostics, failed]
    rw [whole]
    simpa using not_isScanning structural
  | some f =>
    obtain ⟨before, after, parsed, -⟩ := parse_of_failed failed
    simp only [ne_eq, reduceCtorEq, not_false_eq_true, iff_true]
    refine ⟨failureDiagnostic s.file s.tokens.last f, ?_, failureDiagnostic_isScanning fresh failed⟩
    simp [parsed]

end Script

end Gamebook
