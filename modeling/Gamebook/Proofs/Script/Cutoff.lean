import Gamebook.Proofs.Script.Lookahead
import Gamebook.Proofs.Script.Streaming

/-! # What is found before the tokens fail

Some tokens end, and others begin with the same ones and go on. As long as tokens are left, they are
read alike, so the same is found in both. What is found when the first have ended can be different, but
then it is an error, which is not told if the tokens failed there, or the warning that a module closes
under another name, which only depends on the tokens that were read.
-/

namespace Gamebook

theorem Finding.IsWrong.early {stop : Token} {ts : List Token} {f : Finding}
    (goes : stop.kind ≠ .endOfInput) (isWrong : f.IsWrong stop ts) : f.atEnd = false := by
  cases isWrong with
  | wrong => simp [Reading.wrong, goes]

namespace Reading

/-! ## Findings -/

/-- What is found in tokens that end, and what is found in tokens that begin with the same ones. What
    was found early is found again, in the same order; at the end there may be one warning, which is
    found again too, and errors. -/
inductive Foretells : List Finding → List Finding → Prop where
  | ended {fs : List Finding} (late : ∀ f ∈ fs, f.IsLateError) (gs : List Finding) : Foretells fs gs
  | found {f : Finding} (early : f.atEnd = false) {fs gs : List Finding} (later : Foretells fs gs) :
    Foretells (f :: fs) (f :: gs)
  | warned {w : Finding} (atEnd : w.atEnd = true) (isWarning : w.severity = .warning)
      {fs : List Finding} (late : ∀ f ∈ fs, f.IsLateError) (again : Bool) (gs : List Finding) :
    Foretells (w :: fs) ({ w with atEnd := again } :: gs)

namespace Foretells

variable {es fs gs hs : List Finding}

theorem append (foretells : Foretells fs gs) (late : ∀ f ∈ es, f.IsLateError) (hs : List Finding) :
    Foretells (fs ++ es) (gs ++ hs) := by
  induction foretells with
  | ended first => exact .ended (List.forall_mem_append.mpr ⟨first, late⟩) _
  | found early _ ih => exact .found early ih
  | warned atEnd isWarning first again =>
    exact .warned atEnd isWarning (List.forall_mem_append.mpr ⟨first, late⟩) again _

theorem prepend (early : ∀ f ∈ es, f.atEnd = false) (foretells : Foretells fs gs) :
    Foretells (es ++ fs) (es ++ gs) := by
  induction es with
  | nil => exact foretells
  | cons e es ih =>
    obtain ⟨first, others⟩ := List.forall_mem_cons.mp early
    exact .found first (ih others)

end Foretells

/-- The findings that are told of tokens that fail. -/
def kept (fs : List Finding) : List Finding :=
  fs.filter (fun f => !f.atEnd) ++ fs.filter Finding.isLateWarning

theorem kept_of_late {fs : List Finding} (late : ∀ f ∈ fs, f.IsLateError) : kept fs = [] := by
  have none : fs.filter (fun f => !f.atEnd) = [] := by
    refine List.filter_eq_nil_iff.mpr fun f member => ?_
    simp [(late f member).1]
  rw [kept, none, WarnsOnce.late_eq_nil fun f member => (late f member).2]
  rfl

theorem kept_early {f : Finding} (early : f.atEnd = false) (fs : List Finding) :
    kept (f :: fs) = f :: kept fs := by
  simp [kept, early, Finding.isLateWarning]

theorem kept_warning {w : Finding} (atEnd : w.atEnd = true) (isWarning : w.severity = .warning)
    {fs : List Finding} (late : ∀ f ∈ fs, f.IsLateError) : kept (w :: fs) = [w] := by
  have rest := kept_of_late late
  simp only [kept, List.append_eq_nil_iff] at rest
  simp [kept, atEnd, isWarning, Finding.isLateWarning, rest.1, rest.2]

/-- What is told of tokens that fail is told first of all that is found if they go on. -/
theorem Foretells.kept_prefix {fs gs : List Finding} (foretells : Foretells fs gs) (file : Text) :
    (kept fs).map (Finding.diagnostic file) <+: gs.map (Finding.diagnostic file) := by
  induction foretells with
  | ended late =>
    rw [kept_of_late late]
    exact List.nil_prefix
  | found early _ ih =>
    rw [kept_early early]
    exact List.prefix_cons_inj _ |>.mpr ih
  | warned atEnd isWarning late again gs =>
    rw [kept_warning atEnd isWarning late]
    exact ⟨gs.map (Finding.diagnostic file), rfl⟩

/-- If those tokens fail too, nothing early comes after the end. -/
theorem Foretells.kept_prefix_kept {fs gs hs : List Finding} (foretells : Foretells fs gs)
    (second : Foretells gs hs) (file : Text) :
    (kept fs).map (Finding.diagnostic file) <+: (kept gs).map (Finding.diagnostic file) := by
  induction foretells generalizing hs with
  | ended late =>
    rw [kept_of_late late]
    exact List.nil_prefix
  | @found f early fs gs _ ih =>
    rw [kept_early early, kept_early early]
    cases second with
    | ended late => simp [(late f List.mem_cons_self).1] at early
    | found _ later => exact (List.prefix_cons_inj _).mpr (ih later)
    | warned atEnd => simp [atEnd] at early
  | @warned w atEnd isWarning fs late again gs =>
    rw [kept_warning atEnd isWarning late]
    cases second with
    | ended late =>
      have isError := (late _ List.mem_cons_self).2
      simp [isWarning] at isError
    | found early _ =>
      rw [kept_early early]
      exact ⟨(kept gs).map (Finding.diagnostic file), rfl⟩
    | warned againAtEnd _ later =>
      rw [kept_warning againAtEnd isWarning later]
      exact List.prefix_rfl

/-! ## Scenes -/

section Scene

variable {stop stop' : Token} (ends : stop.kind = .endOfInput) {ts more : List Token}

theorem Foretells.wrong (going : ts ≠ []) (pos : Pos) (problem : Problem) {fs gs : List Finding}
    (later : Foretells fs gs) :
    Foretells (wrong stop ts pos problem :: fs)
      (Reading.wrong stop' (ts ++ more) pos problem :: gs) := by
  cases ts with
  | nil => exact absurd rfl going
  | cons t rest => exact .found rfl later

include ends

theorem body_foretells (scene : Text) (draft : Draft) :
    Foretells (body stop scene draft ts).2 (body stop' scene draft (ts ++ more)).2 := by
  -- Each part is read from what the one before it leaves, so by induction on the number of tokens.
  induction size : ts.length using Nat.strongRecOn generalizing ts draft with
  | ind n ih =>
    rcases ts with - | ⟨t, rest⟩
    · rw [body]
      exact .ended (by simp) _
    have later {left : List Token} (shorter : left.length < rest.length) (draft : Draft) :
        Foretells (body stop scene draft left).2 (body stop' scene draft (left ++ more)).2 :=
      ih left.length (by simp only [List.length_cons] at size; omega) draft rfl
    have failing {f : Finding} (early : f.atEnd = false) : Foretells [f] [f] :=
      .found early (.ended (by simp) [])
    have late (pos : Pos) (problem : Problem) := wrong_late ends pos problem
    rw [List.cons_append, body_cons, body_cons]
    split
    · have firm : Firm more rest (effect stop t rest) (effect stop' t (rest ++ more)) :=
        effect_firm ends t
      generalize read : effect stop t rest = x at firm ⊢
      generalize effect stop' t (rest ++ more) = y at firm ⊢
      cases firm with
      | read e _ going => exact later (effect_length_lt read) _
      | failed _ early => exact failing early
      | ended e => exact .ended (by simp [body]) _
      | failedAtEnd late => exact .ended (by simpa using late) _
    split
    · have firm : Firm more rest (flavortext stop rest) (flavortext stop' (rest ++ more)) :=
        flavortext_firm ends
      generalize read : flavortext stop rest = x at firm ⊢
      generalize flavortext stop' (rest ++ more) = y at firm ⊢
      cases firm with
      | read told _ going =>
        have shorter := flavortext_length_lt read
        dsimp only
        split
        · exact (later shorter _).wrong going ..
        · exact later shorter _
      | failed _ early => exact failing early
      | ended told =>
        refine .ended ?_ _
        dsimp only
        split
        · simpa [body] using late ..
        · simp [body]
      | failedAtEnd late => exact .ended (by simpa using late) _
    split
    · have firm : Firm more rest (select stop rest) (select stop' (rest ++ more)) := select_firm ends
      generalize read : select stop rest = x at firm ⊢
      generalize select stop' (rest ++ more) = y at firm ⊢
      cases firm with
      | read bs _ going =>
        have shorter := select_length_lt read
        dsimp only
        split
        · exact (later shorter _).wrong going ..
        · split
          · exact (later shorter _).wrong going ..
          · exact later shorter _
      | failed _ early => exact failing early
      | ended bs =>
        refine .ended ?_ _
        dsimp only
        split
        · simpa [body] using late ..
        · split
          · simpa [body] using late ..
          · simp [body]
      | failedAtEnd late => exact .ended (by simpa using late) _
    · exact failing rfl

omit ends in
theorem colon_of_ne_nil (stop stop' : Token) (context : String) (going : ts ≠ [])
    (more : List Token) :
    ∃ es left, (∀ f ∈ es, f.atEnd = false) ∧ colon stop context ts = (es, left) ∧
      colon stop' context (ts ++ more) = (es, left ++ more) := by
  obtain ⟨t, rest, rfl⟩ := List.exists_cons_of_ne_nil going
  by_cases isColon : t.kind = .colon
  · exact ⟨[], rest, by simp, by simp [colon, expect, isColon], by simp [colon, expect, isColon]⟩
  · refine ⟨[unexpected stop (t :: rest) (.expected .colon context)], t :: rest, ?_, ?_, ?_⟩
    · simp [unexpected, wrong]
    · simp [colon, expect, isColon]
    · simp [colon, expect, isColon, unexpected, wrong]

theorem colon_late (context : String) : ∀ f ∈ (colon stop context []).1, f.IsLateError := by
  simpa [colon, expect, unexpected] using wrong_late ends ..

omit ends in
theorem colon_nil (context : String) : (colon stop context []).2 = [] :=
  rfl

theorem parts_foretells : Foretells (parts stop ts).2 (parts stop' (ts ++ more)).2 := by
  have firm : Firm more ts (expect stop .name "after @scene" ts)
      (expect stop' .name "after @scene" (ts ++ more)) := expect_firm ends ..
  unfold parts
  generalize expect stop .name "after @scene" ts = x at firm ⊢
  generalize expect stop' .name "after @scene" (ts ++ more) = y at firm ⊢
  cases firm with
  | read name _ going =>
    obtain ⟨es, left, early, first, second⟩ := colon_of_ne_nil stop stop' "after scene name" going more
    simp only [first, second]
    exact (body_foretells ends ..).prepend early
  | failed _ early => exact .found early (.ended (by simp) _)
  | ended name =>
    refine .ended (List.forall_mem_append.mpr ⟨colon_late ends _, ?_⟩) _
    rw [colon_nil, body]
    simp
  | failedAtEnd late => exact .ended (by simpa using late) _

end Scene

/-- Before a boundary nothing is found at the end. -/
theorem parts_early {stop : Token} (goes : stop.kind ≠ .endOfInput) (ts : List Token) :
    ∀ f ∈ (parts stop ts).2, f.atEnd = false := by
  unfold parts
  split
  · next f failed => simpa using ((expect_within ..).failed f failed).early goes
  · next name inside _ =>
    have colon_early : ∀ f ∈ (colon stop "after scene name" inside).1, f.atEnd = false := by
      unfold colon
      split
      · simp
      · next f failed => simpa using ((expect_within ..).failed f failed).early goes
    exact List.forall_mem_append.mpr
      ⟨colon_early, fun f member => (body_within _ _ f member).early goes⟩

/-- After its parts at most a missing choice is found in a scene. -/
theorem sceneWithin_findings (start stop : Token) (inside : List Token) :
    ∃ missing : List Problem, ∀ rest, (sceneWithin start stop inside rest).2 =
      (parts stop inside).2 ++ missing.map (⟨.error, start.pos, ·, rest.isEmpty⟩) := by
  simp only [sceneWithin_eq]
  rcases parts stop inside with ⟨- | ⟨name, draft⟩, findings⟩
  · exact ⟨[], fun _ => by simp⟩
  · cases chosen : draft.select with
    | none => exact ⟨[.missingSelect name], fun _ => by simp [chosen]⟩
    | some _ => exact ⟨[], fun _ => by simp [chosen]⟩

theorem sceneWithin_congr (start stop : Token) (inside rest rest' : List Token)
    (same : rest.isEmpty = rest'.isEmpty) :
    sceneWithin start stop inside rest = sceneWithin start stop inside rest' := by
  simp only [sceneWithin, same]

/-! ## Between scenes -/

section Left

variable {ts : List Token} (more : List Token)

theorem isEmpty_append (going : ts ≠ []) : (ts ++ more).isEmpty = ts.isEmpty := by
  cases ts with
  | nil => exact absurd rfl going
  | cons t rest => rfl

theorem seek_append {accepts : Kind → Bool} (going : seek accepts ts ≠ []) :
    seek accepts (ts ++ more) = seek accepts ts ++ more := by
  unfold seek at going ⊢
  rw [List.dropWhile_append, if_neg (by simpa using going)]

theorem skip_append {kind : Kind} (going : skip kind ts ≠ []) :
    skip kind (ts ++ more) = skip kind ts ++ more := by
  cases ts with
  | nil => exact absurd rfl going
  | cons t rest =>
    simp only [skip, List.cons_append]
    split
    · rfl
    · rfl

theorem closeScene_append (going : closeScene ts ≠ []) :
    closeScene (ts ++ more) = closeScene ts ++ more := by
  cases ts with
  | nil => exact absurd rfl going
  | cons t rest =>
    simp only [closeScene, List.cons_append] at going ⊢
    by_cases isEnd : t.kind = .sceneEnd
    · rw [if_pos isEnd] at going
      rw [if_pos isEnd, if_pos isEnd, skip_append more going]
    · rw [if_neg isEnd, if_neg isEnd, List.cons_append]

theorem closeNameless_append (going : closeNameless ts ≠ []) :
    closeNameless (ts ++ more) = closeNameless ts ++ more := by
  cases ts with
  | nil => exact absurd rfl going
  | cons t rest =>
    simp only [closeNameless, List.cons_append] at going ⊢
    by_cases isEnd : t.kind = .moduleEnd
    · rw [if_pos isEnd] at going
      have named : skip .name rest ≠ [] := fun none => going (by rw [none]; rfl)
      rw [if_pos isEnd, if_pos isEnd, skip_append more named, skip_append more going]
    · rw [if_neg isEnd, if_neg isEnd, List.cons_append]

end Left

/-- What a reader gives between scenes, with its findings and the tokens that it leaves, if the tokens
    end and if `more` follow. -/
inductive InStep {α : Type} (more : List Token) (x y : α × List Finding × List Token) : Prop where
  | going (early : ∀ f ∈ x.2.1, f.atEnd = false) (left : x.2.2 ≠ [])
      (same : y = (x.1, x.2.1, x.2.2 ++ more))
  | ended (left : x.2.2 = []) (foretells : Foretells x.2.1 y.2.1)

namespace InStep

variable {α : Type} {more : List Token} {x y : α × List Finding × List Token}

/-- What was found early before does not matter. -/
theorem prepend {es : List Finding} (early : ∀ f ∈ es, f.atEnd = false) (inStep : InStep more x y) :
    InStep more (x.1, es ++ x.2.1, x.2.2) (y.1, es ++ y.2.1, y.2.2) := by
  cases inStep with
  | going later left same =>
    subst same
    exact .going (List.forall_mem_append.mpr ⟨early, later⟩) left rfl
  | ended left foretells => exact .ended left (foretells.prepend early)

theorem map {β : Type} (see : α → β) (inStep : InStep more x y) :
    InStep more (see x.1, x.2) (see y.1, y.2) := by
  cases inStep with
  | going early left same =>
    subst same
    exact .going early left rfl
  | ended left foretells => exact .ended left foretells

end InStep

/-- What is listed of something that was read. Of things with one name the first counts. -/
def enlist {α : Type} (name : α → Text) (again : α → α → Finding) (seen : List α) :
    Option α → List α × List Finding
  | none => (seen, [])
  | some a =>
    match seen.find? fun earlier => name earlier = name a with
    | some first => (seen, [again a first])
    | none => (seen ++ [a], [])

/-- A scene that stands once too often in a module. -/
def secondScene (module : Text) (atEnd : Bool) (s first : Scene) : Finding :=
  ⟨.error, s.pos, .duplicateScene s.name module first.pos, atEnd⟩

/-- A module that stands once too often in a file. -/
def secondModule (atEnd : Bool) (m first : Module) : Finding :=
  ⟨.error, m.pos, .duplicateModule m.name first.pos, atEnd⟩

theorem enlist_again {α : Type} {name : α → Text} {again : α → α → Finding} {seen seen' : List α}
    {a? : Option α} {es : List Finding} (listed : enlist name again seen a? = (seen', es)) :
    ∀ f ∈ es, ∃ a first, f = again a first := by
  rcases a? with - | a
  · cases listed
    simp
  · simp only [enlist] at listed
    split at listed
    · next first _ =>
      cases listed
      simp
    · cases listed
      simp

section File

variable {last last' : Token} (ends : last.kind = .endOfInput) {ts more : List Token}
include ends

theorem scene_inStep (start : Token) :
    InStep more (scene last start ts) (scene last' start (ts ++ more)) := by
  have whole : (ts.takeWhile fun t => !t.kind.isBoundary) ++ seek Kind.isBoundary ts = ts :=
    List.takeWhile_append_dropWhile
  have size := congrArg List.length whole
  rw [List.length_append] at size
  by_cases unbounded : seek Kind.isBoundary ts = []
  · -- The tokens end inside the scene, so it may well go on with the others.
    rw [unbounded, List.append_nil] at whole
    rw [unbounded, List.length_nil, Nat.add_zero] at size
    refine .ended (by simp [scene, unbounded, closeScene]) ?_
    simp only [scene, unbounded, List.headD_nil, List.takeWhile_append, if_pos size]
    rw [whole]
    obtain ⟨missing, found⟩ := sceneWithin_findings start last ts
    obtain ⟨missing', found'⟩ := sceneWithin_findings start
      ((seek Kind.isBoundary (ts ++ more)).headD last')
      (ts ++ more.takeWhile fun t => !t.kind.isBoundary)
    rw [found, found']
    refine (parts_foretells ends).append (fun f member => ?_) _
    obtain ⟨problem, -, rfl⟩ := List.mem_map.mp member
    exact ⟨rfl, rfl⟩
  · obtain ⟨b, after, boundary⟩ := List.exists_cons_of_ne_nil unbounded
    have goes : b.kind ≠ .endOfInput := by
      have stands := List.head?_dropWhile_not (fun t : Token => !t.kind.isBoundary) ts
      rw [show (ts.dropWhile fun t => !t.kind.isBoundary) = b :: after from boundary] at stands
      intro isEnd
      simp [isEnd, Kind.isBoundary] at stands
    have boundary' := seek_append more unbounded
    rw [boundary] at boundary' size
    have inside : ¬(ts.takeWhile fun t => !t.kind.isBoundary).length = ts.length := by
      simp only [List.length_cons] at size
      omega
    obtain ⟨missing, found⟩ := sceneWithin_findings start b (ts.takeWhile fun t => !t.kind.isBoundary)
    have early := parts_early goes (ts.takeWhile fun t => !t.kind.isBoundary)
    simp only [scene, boundary, boundary', List.cons_append, List.headD_cons, List.takeWhile_append,
      if_neg inside]
    by_cases left : closeScene (b :: after) = []
    · refine .ended left ?_
      rw [found, found]
      refine Foretells.prepend early (.ended (fun f member => ?_) _)
      obtain ⟨problem, -, rfl⟩ := List.mem_map.mp member
      exact ⟨by simp [left], rfl⟩
    · refine .going ?_ left ?_
      · rw [found]
        refine List.forall_mem_append.mpr ⟨early, fun f member => ?_⟩
        obtain ⟨problem, -, rfl⟩ := List.mem_map.mp member
        simpa using left
      · rw [← List.cons_append, closeScene_append more left]
        rw [sceneWithin_congr start b _ _ _ (isEmpty_append more left)]

omit ends in
theorem closeModule_inStep {α : Type} (a : α) (name : Text) (start : Pos) :
    InStep more (a, closeModule name start ts) (a, closeModule name start (ts ++ more)) := by
  rcases ts with - | ⟨closing, rest⟩
  · exact .ended rfl (.ended (by simp [closeModule]) _)
  simp only [closeModule, List.cons_append]
  split
  · by_cases left : skip .semicolon rest = []
    · refine .ended left ?_
      dsimp only
      split
      · exact .ended (by simp) _
      · rcases rest with - | ⟨t, rest⟩
        · exact .warned rfl rfl (by simp) _ _
        · exact .found rfl (.ended (by simp) _)
    · have some : rest ≠ [] := fun none => left (by rw [none]; rfl)
      refine .going ?_ left ?_
      · dsimp only
        split
        · simp
        · simpa using some
      · rw [skip_append more left, isEmpty_append more some]
  · by_cases left : skip .semicolon (closing :: rest) = []
    · exact .ended left (.ended (by simp) _)
    · refine .going (by simp) left ?_
      rw [← List.cons_append, skip_append more left]

omit ends in
theorem scenes_start {start : Token} (isStart : start.kind = .sceneStart) (module : Text) (pos : Pos)
    (seen : List Scene) {s? : Option Scene} {fs : List Finding} {left : List Token}
    (read : scene last start ts = (s?, fs, left)) {seen' : List Scene} {es : List Finding}
    (listed : enlist Scene.name (secondScene module left.isEmpty) seen s? = (seen', es)) :
    scenes last module pos seen (start :: ts) =
      ((scenes last module pos seen' left).1, (fs ++ es) ++ (scenes last module pos seen' left).2.1,
        (scenes last module pos seen' left).2.2) := by
  rcases s? with - | s
  · cases listed
    rw [scenes_of_dropped read isStart, List.append_nil]
  · simp only [enlist] at listed
    split at listed
    · next first earlier =>
      cases listed
      rw [scenes_of_second read isStart earlier, List.append_assoc]
      rfl
    · next fresh =>
      cases listed
      rw [scenes_cons isStart read fresh, List.append_nil]

omit ends in
theorem scenes_nil (last : Token) (module : Text) (pos : Pos) (seen : List Scene) :
    scenes last module pos seen [] = (seen, [⟨.error, pos, .missingModuleEnd module, true⟩], []) := by
  rw [scenes]

theorem scenes_inStep (module : Text) (pos : Pos) (seen : List Scene) :
    InStep more (scenes last module pos seen ts) (scenes last' module pos seen (ts ++ more)) := by
  induction size : ts.length using Nat.strongRecOn generalizing ts seen with
  | ind n ih =>
    rcases ts with - | ⟨t, rest⟩
    · rw [scenes_nil]
      exact .ended rfl (.ended (by simp [Finding.IsLateError]) _)
    rw [List.length_cons] at size
    have later {left : List Token} (shorter : left.length ≤ rest.length) (seen : List Scene) :
        InStep more (scenes last module pos seen left) (scenes last' module pos seen (left ++ more)) :=
      ih left.length (by omega) seen rfl
    rw [List.cons_append]
    by_cases isStart : t.kind = .sceneStart
    · have read : InStep more (scene last t rest) (scene last' t (rest ++ more)) := scene_inStep ends t
      have shorter := scene_length_le last t rest
      rcases first : scene last t rest with ⟨s?, fs, left⟩
      rcases second : scene last' t (rest ++ more) with ⟨s?', gs, left'⟩
      rcases listed : enlist Scene.name (secondScene module left.isEmpty) seen s? with ⟨seen₁, es⟩
      rcases listed' : enlist Scene.name (secondScene module left'.isEmpty) seen s?' with ⟨seen₂, es'⟩
      rw [scenes_start isStart module pos seen first listed]
      rw [scenes_start isStart module pos seen second listed']
      rw [first] at shorter
      rw [first, second] at read
      cases read with
      | going early goes same =>
        -- Both have read the same scene, and tokens are left, so it is listed alike.
        cases same
        rw [isEmpty_append more goes, listed] at listed'
        cases listed'
        refine (later shorter seen₁).prepend (List.forall_mem_append.mpr ⟨early, fun f member => ?_⟩)
        obtain ⟨s, earlier, rfl⟩ := enlist_again listed f member
        simpa [secondScene] using goes
      | ended none foretells =>
        obtain rfl : left = [] := none
        rw [scenes_nil, List.append_assoc, List.append_assoc]
        refine .ended rfl (foretells.append (List.forall_mem_append.mpr ⟨fun f member => ?_, ?_⟩) _)
        · obtain ⟨s, earlier, rfl⟩ := enlist_again listed f member
          exact ⟨rfl, rfl⟩
        · simp [Finding.IsLateError]
    by_cases isEnd : t.kind = .moduleEnd
    · rw [scenes, if_neg isStart, if_pos isEnd, scenes, if_neg isStart, if_pos isEnd]
      exact closeModule_inStep seen module pos
    by_cases opens : t.kind = .moduleStart
    · rw [scenes, if_neg isStart, if_neg isEnd, if_pos opens]
      rw [scenes, if_neg isStart, if_neg isEnd, if_pos opens]
      exact .going (by simp) (by simp) rfl
    · rw [scenes, if_neg isStart, if_neg isEnd, if_neg opens]
      rw [scenes, if_neg isStart, if_neg isEnd, if_neg opens]
      by_cases none : seek Kind.continuesModule rest = []
      · rw [none, scenes_nil]
        exact .ended rfl (.found rfl (.ended (by simp [Finding.IsLateError]) _))
      · rw [seek_append more none]
        have early : ∀ f ∈ [(⟨.error, t.pos, .expectedScene module t, false⟩ : Finding)],
            f.atEnd = false := by simp
        exact (later (seek_length_le ..) seen).prepend early

theorem module_inStep (file : Text) (start : Token) :
    InStep more (module last file start ts) (module last' file start (ts ++ more)) := by
  have late (context : String) : (unexpected last [] (.expected .name context)).IsLateError :=
    wrong_late ends ..
  rcases ts with - | ⟨t, rest⟩
  · exact .ended rfl (.ended (by simpa [module, expect] using late _) _)
  by_cases named : t.kind = .name
  · simp only [module, List.cons_append, expect_cons named]
    rcases rest with - | ⟨u, rest⟩
    · rw [colon_nil, scenes_nil]
      refine .ended rfl (.ended (List.forall_mem_append.mpr ⟨colon_late ends _, ?_⟩) _)
      simp [Finding.IsLateError]
    · obtain ⟨es, left, early, first, second⟩ :=
        colon_of_ne_nil last last' "after module name" (List.cons_ne_nil u rest) more
      simp only [first, second]
      have found : InStep more (scenes last t.lexeme start.pos [] left)
          (scenes last' t.lexeme start.pos [] (left ++ more)) := scenes_inStep ends ..
      exact (found.prepend early).map fun scenes => some (Module.mk t.lexeme start.pos file scenes)
  · simp only [module, expect, List.cons_append, if_neg named]
    rw [← List.cons_append]
    by_cases left : closeNameless (seek Kind.boundsModule (t :: rest)) = []
    · exact .ended left (.found rfl (.ended (by simp) _))
    · have some : seek Kind.boundsModule (t :: rest) ≠ [] := fun none => left (by rw [none]; rfl)
      refine .going (by simp [unexpected, wrong]) left ?_
      rw [seek_append more some, closeNameless_append more left]
      rfl

omit ends in
theorem modules_start {start : Token} (isStart : start.kind = .moduleStart) (file : Text)
    (seen : List Module) {m? : Option Module} {fs : List Finding} {left : List Token}
    (read : module last file start ts = (m?, fs, left)) {seen' : List Module} {es : List Finding}
    (listed : enlist Module.name (secondModule left.isEmpty) seen m? = (seen', es)) :
    modules last file seen (start :: ts) =
      ((modules last file seen' left).1, (fs ++ es) ++ (modules last file seen' left).2) := by
  rcases m? with - | m
  · cases listed
    rw [modules_of_dropped read isStart, List.append_nil]
  · simp only [enlist] at listed
    split at listed
    · next first earlier =>
      cases listed
      rw [modules_of_second read isStart earlier, List.append_assoc]
      rfl
    · next fresh =>
      cases listed
      rw [modules_cons isStart read fresh, List.append_nil]

/-- What is found in tokens that end foretells what is found if they go on. -/
theorem modules_foretells (file : Text) (seen : List Module) :
    Foretells (modules last file seen ts).2 (modules last' file seen (ts ++ more)).2 := by
  induction size : ts.length using Nat.strongRecOn generalizing ts seen with
  | ind n ih =>
    rcases ts with - | ⟨t, rest⟩
    · rw [modules]
      exact .ended (by simp) _
    rw [List.length_cons] at size
    have later {left : List Token} (shorter : left.length ≤ rest.length) (seen : List Module) :
        Foretells (modules last file seen left).2 (modules last' file seen (left ++ more)).2 :=
      ih left.length (by omega) seen rfl
    rw [List.cons_append]
    by_cases isStart : t.kind = .moduleStart
    · have read : InStep more (module last file t rest) (module last' file t (rest ++ more)) :=
        module_inStep ends file t
      have shorter := module_length_le last file t rest
      rcases first : module last file t rest with ⟨m?, fs, left⟩
      rcases second : module last' file t (rest ++ more) with ⟨m?', gs, left'⟩
      rcases listed : enlist Module.name (secondModule left.isEmpty) seen m? with ⟨seen₁, es⟩
      rcases listed' : enlist Module.name (secondModule left'.isEmpty) seen m?' with ⟨seen₂, es'⟩
      rw [modules_start isStart file seen first listed]
      rw [modules_start isStart file seen second listed']
      rw [first] at shorter
      rw [first, second] at read
      cases read with
      | going early goes same =>
        cases same
        rw [isEmpty_append more goes, listed] at listed'
        cases listed'
        refine (later shorter seen₁).prepend (List.forall_mem_append.mpr ⟨early, fun f member => ?_⟩)
        obtain ⟨m, earlier, rfl⟩ := enlist_again listed f member
        simpa [secondModule] using goes
      | ended none foretells =>
        obtain rfl : left = [] := none
        rw [modules, List.append_nil, List.append_assoc]
        refine foretells.append (fun f member => ?_) _
        obtain ⟨m, earlier, rfl⟩ := enlist_again listed f member
        exact ⟨rfl, rfl⟩
    · rw [modules, if_neg isStart, modules, if_neg isStart]
      by_cases none : seek (· = .moduleStart) rest = []
      · rw [none, modules]
        exact .found rfl (.ended (by simp) _)
      · rw [seek_append more none]
        exact .found rfl (later (seek_length_le ..) seen)

end File

end Reading

namespace Script

open Reading

variable {s : Source}

/-- What was found does not tell that tokens could not be read. -/
theorem found_not_scanning {fs : List Finding}
    (among : fs ⊆ (Reading.modules s.tokens.last s.file [] s.tokens.list).2) :
    ((fs.map (Finding.diagnostic s.file)).filter fun d => ¬d.IsScanning) =
        fs.map (Finding.diagnostic s.file) ∧
      (fs.map (Finding.diagnostic s.file)).countP (fun d => d.IsScanning) = 0 := by
  have none : ∀ d ∈ fs.map (Finding.diagnostic s.file), ¬d.IsScanning :=
    not_isScanning fun f member => modules_structural _ _ _ _ f (among member)
  exact ⟨List.filter_eq_self.mpr (by simpa using none), List.countP_eq_zero.mpr (by simpa using none)⟩

/-- Of tokens that fail, the failure is told and what is kept. -/
theorem told_of_failed {f : Failure} (fresh : s.failed = none) (failed : s.tokens.failure = some f) :
    ((parse s).2.filter fun d => ¬d.IsScanning) =
        (kept (Reading.modules s.tokens.last s.file [] s.tokens.list).2).map
          (Finding.diagnostic s.file) ∧
      (parse s).2.countP (fun d => d.IsScanning) = 1 := by
  have scanning := failureDiagnostic_isScanning fresh failed
  have told : (parse s).2 =
      ((Reading.modules s.tokens.last s.file [] s.tokens.list).2.filter fun f => !f.atEnd).map
          (Finding.diagnostic s.file) ++
        failureDiagnostic s.file s.tokens.last f ::
          ((Reading.modules s.tokens.last s.file [] s.tokens.list).2.filter
            Finding.isLateWarning).map (Finding.diagnostic s.file) := by
    simp only [parse, ofTokens, Reading.diagnostics, failed]
    rfl
  have among (p : Finding → Bool) := found_not_scanning (s := s) (List.filter_sublist (p := p)).subset
  rw [told]
  constructor
  · rw [List.filter_append, List.filter_cons_of_neg (by simpa using scanning)]
    rw [(among _).1, (among _).1, kept, List.map_append]
  · rw [List.countP_append, List.countP_cons_of_pos (by simpa using scanning)]
    rw [(among _).2, (among _).2]

theorem told_of_whole (whole : s.tokens.failure = none) :
    ((parse s).2.filter fun d => ¬d.IsScanning) =
        (Reading.modules s.tokens.last s.file [] s.tokens.list).2.map (Finding.diagnostic s.file) ∧
      (parse s).2.countP (fun d => d.IsScanning) = 0 := by
  have told : (parse s).2 =
      (Reading.modules s.tokens.last s.file [] s.tokens.list).2.map (Finding.diagnostic s.file) := by
    simp only [parse, ofTokens, Reading.diagnostics, whole]
  rw [told]
  exact found_not_scanning (List.Subset.refl _)

/-- Whatever follows the tokens that another source has before it fails, what is told of those comes
    first. -/
theorem told_prefix {f : Failure} {t : Source} (fresh : s.failed = none) (fresh' : t.failed = none)
    (name : s.file = t.file) (failed : s.tokens.failure = some f)
    (agree : s.tokens.list <+: t.tokens.list) :
    ((parse s).2.filter fun d => ¬d.IsScanning) <+: ((parse t).2.filter fun d => ¬d.IsScanning) := by
  obtain ⟨more, longer⟩ := agree
  have foretells : Foretells (Reading.modules s.tokens.last s.file [] s.tokens.list).2
      (Reading.modules t.tokens.last s.file [] (s.tokens.list ++ more)).2 :=
    modules_foretells (Source.tokens_last_kind fresh) s.file []
  rw [longer] at foretells
  rw [(told_of_failed fresh failed).1]
  cases failed' : t.tokens.failure with
  | none =>
    rw [(told_of_whole failed').1, ← name]
    exact foretells.kept_prefix s.file
  | some _ =>
    -- The second source is compared with itself: what it finds early comes before all else.
    have itself : Foretells (Reading.modules t.tokens.last s.file [] t.tokens.list).2
        (Reading.modules t.tokens.last s.file [] (t.tokens.list ++ [])).2 :=
      modules_foretells (Source.tokens_last_kind fresh') s.file []
    rw [(told_of_failed fresh' failed').1, ← name]
    exact foretells.kept_prefix_kept itself s.file

theorem countP_isScanning_le (fresh : s.failed = none) :
    (parse s).2.countP (fun d => d.IsScanning) ≤ 1 := by
  cases failed : s.tokens.failure with
  | none => exact (told_of_whole failed).2 ▸ Nat.zero_le 1
  | some f => exact (told_of_failed fresh failed).2.le

end Script

/-- If the tokens of a source fail, what is told of those before stands. It is told first, in the same
    order and at the same places, of every source under the same name that begins with these tokens,
    however it goes on. So it is if the sources are read token by token. -/
theorem findings_before_failure_stand (file text text' : Text) (broken broken' : Option Failure)
    (failed : (Source.ofText file text broken).tokens.failure ≠ none)
    (agree : (Source.ofText file text broken).tokens.list <+:
      (Source.ofText file text' broken').tokens.list) :
    let told := (Script.parse (Source.ofText file text broken)).2
    let told' := (Script.parse (Source.ofText file text' broken')).2
    (∃ script script', Reading.Pull.parse? (.ofText file text broken) = some (script, told) ∧
      Reading.Pull.parse? (.ofText file text' broken') = some (script', told')) ∧
    (told.filter fun d => ¬d.IsScanning) <+: (told'.filter fun d => ¬d.IsScanning) ∧
      told.countP (fun d => d.IsScanning) = 1 ∧ told'.countP (fun d => d.IsScanning) ≤ 1 := by
  intro told told'
  obtain ⟨f, failed⟩ := Option.ne_none_iff_exists'.mp failed
  refine ⟨⟨_, _, Script.parse?_eq_parse _ rfl, Script.parse?_eq_parse _ rfl⟩, ?_⟩
  exact ⟨Script.told_prefix rfl rfl rfl failed agree, (Script.told_of_failed rfl failed).2,
    Script.countP_isScanning_le rfl⟩

/-- A string that is not closed stands after a module that ends under another name. The warning about
    that is told at the end of the tokens; where the string is left out, it comes in the middle. -/
theorem findings_before_failure_stand_warning :
    let s := Source.ofText "f" "stray @module a: @end-module b \"open"
    let t := Source.ofText "f" "stray @module a: @end-module b; get @module a"
    s.tokens.failure ≠ none ∧ s.tokens.list <+: t.tokens.list ∧
      ((Script.parse s).2.filter fun d => ¬d.IsScanning).map (·.severity) = [.error, .warning] ∧
      ((Script.parse s).2.filter fun d => ¬d.IsScanning) <+:
        ((Script.parse t).2.filter fun d => ¬d.IsScanning) := by
  intro s t
  have failed : s.tokens.failure ≠ none := by decide +kernel
  have agree : s.tokens.list <+: t.tokens.list := by decide +kernel
  exact ⟨failed, agree, by decide +kernel,
    (findings_before_failure_stand "f" _ _ none none failed agree).2.1⟩

end Gamebook
