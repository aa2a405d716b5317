import Gamebook.Proofs.Script.Findings
import Gamebook.Proofs.Script.Grammar

/-! # What is read without errors is in the grammar

Each reader takes the tokens of its part from the front and leaves the others. The readers inside a
scene are opened here once, following their definitions; a body, a scene or a module that is read
without errors is then a sequence of what they read.
-/

namespace Gamebook.Reading

open Grammar

variable {stop : Token} {ts rest : List Token}

/-- A reader that begins with a token of a kind finds it at the front. -/
theorem of_expect_bind {α : Type} {wanted : Kind} {context : String}
    {next : Token × List Token → Except Finding α} {a : α}
    (ok : (expect stop wanted context ts >>= next) = .ok a) :
    ∃ t rest, ts = t :: rest ∧ t.kind = wanted ∧ next (t, rest) = .ok a := by
  obtain ⟨⟨t, rest⟩, step, ok⟩ := bind_eq_ok ok
  obtain ⟨front, kind⟩ := expect_eq_ok_iff.mp step
  exact ⟨t, rest, front, kind, ok⟩

theorem target_sound {x : Target} (ok : target stop ts = .ok (x, rest)) :
    ∃ us, ts = us ++ rest ∧ IsTarget us x := by
  unfold target at ok
  split at ok
  · cases ok
  · next t after =>
    split at ok
    · next name =>
      split at ok
      · split at ok
        · next scope =>
          obtain ⟨scene, left, rfl, isName, ok⟩ := of_expect_bind ok
          cases ok
          exact ⟨[t, _, scene], rfl, .sameFile (by simp [name, scope, isName])⟩
        · cases ok
          exact ⟨[t], rfl, .sameModule (by simp [name])⟩
      · cases ok
        exact ⟨[t], rfl, .sameModule (by simp [name])⟩
    · split at ok
      · next file =>
        obtain ⟨left, afterLeft, rfl, isLeft, ok⟩ := of_expect_bind ok
        obtain ⟨path, afterPath, rfl, isPath, ok⟩ := of_expect_bind ok
        dsimp only at ok
        split at ok
        · cases ok
        · next somewhere =>
          obtain ⟨right, afterRight, rfl, isRight, ok⟩ := of_expect_bind ok
          obtain ⟨scope, afterScope, rfl, isScope, ok⟩ := of_expect_bind ok
          obtain ⟨module, afterModule, rfl, isModule, ok⟩ := of_expect_bind ok
          obtain ⟨scope', afterScope', rfl, isScope', ok⟩ := of_expect_bind ok
          obtain ⟨scene, afterScene, rfl, isScene, ok⟩ := of_expect_bind ok
          cases ok
          refine ⟨[t, left, path, right, scope, module, scope', scene], rfl, .otherFile ?_ ?_⟩
          · simp [file, isLeft, isPath, isRight, isScope, isModule, isScope', isScene]
          · simpa using somewhere
      · cases ok

theorem condition_sound {c : Condition} (ok : condition stop ts = .ok (c, rest)) :
    ∃ us, ts = us ++ rest ∧ IsCondition us c := by
  obtain ⟨has, afterHas, rfl, isHas, ok⟩ := of_expect_bind ok
  dsimp only at ok
  split at ok
  · split at ok
    · next no =>
      obtain ⟨item, left, rfl, isItem, ok⟩ := of_expect_bind ok
      cases ok
      exact ⟨[has, _, item], rfl, .lacks (by simp [isHas, no, isItem])⟩
    · obtain ⟨item, left, front, isItem, ok⟩ := of_expect_bind ok
      cases ok
      rw [front]
      exact ⟨[has, item], rfl, .has (by simp [isHas, isItem])⟩
  · obtain ⟨item, left, front, -, -⟩ := of_expect_bind ok
    cases front

theorem guard_sound {cs : List Condition} (ok : guard stop ts = .ok (cs, rest)) :
    ∃ us, ts = us ++ rest ∧ IsGuard us cs := by
  fun_induction guard stop ts generalizing cs rest with
  | case1 => cases ok
  | case2 ts c t after read comma _ ih =>
    obtain ⟨⟨more, left⟩, read', ok⟩ := bind_eq_ok ok
    cases ok
    obtain ⟨us, rfl, condition⟩ := condition_sound read
    obtain ⟨us', rfl, guard⟩ := ih read'
    exact ⟨us ++ t :: us', by simp, .more condition comma guard⟩
  | case3 ts c t after read comma =>
    obtain ⟨mark, left, front, question, ok⟩ := of_expect_bind ok
    cases ok
    obtain ⟨us, rfl, condition⟩ := condition_sound read
    rw [front]
    exact ⟨us ++ [mark], by simp, .last condition question⟩
  | case4 ts c read =>
    obtain ⟨mark, left, front, -, -⟩ := of_expect_bind ok
    cases front

/-- A guard begins with a token. -/
theorem exists_cons_of_isGuard {us : List Token} {cs : List Condition} (guard : IsGuard us cs) :
    ∃ first more, us = first :: more := by
  have condition {us : List Token} {c : Condition} (is : IsCondition us c) :
      ∃ first more, us = first :: more := by
    cases is with
    | has kinds => exact ⟨_, _, rfl⟩
    | lacks kinds => exact ⟨_, _, rfl⟩
  cases guard with
  | last is question =>
    obtain ⟨first, more, rfl⟩ := condition is
    exact ⟨first, _, rfl⟩
  | more is comma rest =>
    obtain ⟨first, more, rfl⟩ := condition is
    exact ⟨first, _, rfl⟩

theorem branch_sound {b : Branch} (ok : branch stop ts = .ok (b, rest)) :
    ∃ us, ts = us ++ rest ∧ IsBranch us b := by
  obtain ⟨⟨cs, afterGuard⟩, guarded, ok⟩ := bind_eq_ok ok
  obtain ⟨label, afterLabel, labelled, isLabel, ok⟩ := of_expect_bind ok
  obtain ⟨arrow, afterArrow, arrowed, isArrow, ok⟩ := of_expect_bind ok
  obtain ⟨⟨x, left⟩, read, ok⟩ := bind_eq_ok ok
  cases ok
  obtain ⟨us, rfl, leads⟩ := target_sound read
  unfold optionalGuard at guarded
  split at guarded
  · obtain ⟨gs, rfl, isGuard⟩ := guard_sound guarded
    obtain ⟨first, more, rfl⟩ := exists_cons_of_isGuard isGuard
    subst labelled arrowed
    exact ⟨first :: more ++ label :: arrow :: us, by simp,
      .guarded isGuard (by simp [isLabel, isArrow]) leads⟩
  · cases guarded
    subst labelled arrowed
    exact ⟨label :: arrow :: us, rfl, .free (by simp [isLabel, isArrow]) leads⟩

theorem branches_sound {bs : List Branch} (ok : branches stop ts = .ok (bs, rest)) :
    (bs = [] ∧ rest = ts) ∨ ∃ us, ts = us ++ rest ∧ AreBranches us bs := by
  fun_induction branches stop ts generalizing bs rest with
  | case1 =>
    cases ok
    exact .inl ⟨rfl, rfl⟩
  | case2 => cases ok
  | case3 ts _ b t after read comma _ ih =>
    obtain ⟨⟨more, left⟩, read', ok⟩ := bind_eq_ok ok
    cases ok
    obtain ⟨us, rfl, isBranch⟩ := branch_sound read
    -- After the comma there are more branches, or it was the last token before the brace.
    rcases ih read' with ⟨rfl, rfl⟩ | ⟨us', rfl, areBranches⟩
    · exact .inr ⟨us ++ [t], by simp, .lastComma isBranch comma⟩
    · exact .inr ⟨us ++ t :: us', by simp, .more isBranch comma areBranches⟩
  | case4 ts _ b t after read comma =>
    cases ok
    obtain ⟨us, rfl, isBranch⟩ := branch_sound read
    exact .inr ⟨us, rfl, .last isBranch⟩
  | case5 ts _ b read =>
    cases ok
    obtain ⟨us, rfl, isBranch⟩ := branch_sound read
    exact .inr ⟨us, rfl, .last isBranch⟩

/-- Branches that are read are those of the grammar, unless there are none. -/
theorem select_sound {key : Token} {bs : List Branch} (isSelect : key.kind = .select)
    (ok : select stop ts = .ok (bs, rest)) (some : bs ≠ []) :
    ∃ us, key :: ts = us ++ rest ∧ IsPart us (.select key.pos bs) := by
  obtain ⟨left, inside, rfl, isLeft, ok⟩ := of_expect_bind ok
  obtain ⟨⟨bs', afterBranches⟩, read, ok⟩ := bind_eq_ok ok
  obtain ⟨right, afterRight, closed, isRight, ok⟩ := of_expect_bind ok
  obtain ⟨mark, afterMark, marked, isMark, ok⟩ := of_expect_bind ok
  cases ok
  subst closed marked
  rcases branches_sound read with ⟨none, -⟩ | ⟨us, rfl, areBranches⟩
  · exact absurd none some
  · exact ⟨key :: left :: us ++ [right, mark], by simp,
      .select (by simp [isSelect, isLeft]) areBranches (by simp [isRight, isMark])⟩

theorem lines_sound (ts : List Token) :
    ∃ us, ts = us ++ (lines ts).2 ∧ AreLines us (lines ts).1 := by
  fun_induction lines ts with
  | case1 => exact ⟨[], rfl, .none⟩
  | case2 t string => exact ⟨[t], rfl, .line string .none⟩
  | case3 t other => exact ⟨[], rfl, .none⟩
  | case4 t c rest string more after eq ih ih' =>
    split at eq
    · next comma =>
      rw [eq] at ih
      obtain ⟨us, rfl, areLines⟩ := ih
      exact ⟨t :: c :: us, rfl, .lineComma string comma areLines⟩
    · rw [eq] at ih'
      obtain ⟨us, same, areLines⟩ := ih'
      exact ⟨t :: us, congrArg (t :: ·) same, .line string areLines⟩
  | case5 => exact ⟨[], rfl, .none⟩

theorem flavortext_sound {key : Token} {told : List Text} (isKey : key.kind = .flavortext)
    (ok : flavortext stop ts = .ok (told, rest)) :
    ∃ us, key :: ts = us ++ rest ∧ IsPart us (.told told) := by
  obtain ⟨left, inside, rfl, isLeft, ok⟩ := of_expect_bind ok
  obtain ⟨right, afterRight, closed, isRight, ok⟩ := of_expect_bind ok
  obtain ⟨mark, afterMark, marked, isMark, ok⟩ := of_expect_bind ok
  cases ok
  obtain ⟨us, split, areLines⟩ := lines_sound inside
  have whole : inside = us ++ right :: mark :: rest := by rw [← marked, ← closed, ← split]
  exact ⟨key :: left :: us ++ [right, mark], by simp [← whole],
    .told (by simp [isKey, isLeft]) areLines (by simp [isRight, isMark])⟩

theorem effect_sound {key : Token} {e : Effect} (isKey : key.kind = .get ∨ key.kind = .lose)
    (ok : effect stop key ts = .ok (e, rest)) :
    ∃ us, key :: ts = us ++ rest ∧ IsPart us (.effect e) := by
  unfold effect at ok
  split at ok
  · next get =>
    obtain ⟨item, afterItem, rfl, isItem, ok⟩ := of_expect_bind ok
    obtain ⟨mark, afterMark, marked, isMark, ok⟩ := of_expect_bind ok
    cases ok
    subst marked
    exact ⟨[key, item, mark], rfl, .get (by simp [get, isItem, isMark])⟩
  · next other =>
    obtain ⟨item, afterItem, rfl, isItem, ok⟩ := of_expect_bind ok
    obtain ⟨mark, afterMark, marked, isMark, ok⟩ := of_expect_bind ok
    cases ok
    subst marked
    have lose := isKey.resolve_left other
    exact ⟨[key, item, mark], rfl, .lose (by simp [lose, isItem, isMark])⟩

namespace Draft

/-- The draft with one more part. -/
def add (d : Draft) : Part → Draft
  | .effect e => { d with effects := d.effects ++ [e] }
  | .told lines => { d with flavortext := some lines }
  | .select pos branches => { d with select := some (pos, branches) }

/-- That none of the parts comes a second time where only one may stand. -/
def Admits (d : Draft) : List Part → Prop
  | [] => True
  | .effect e :: parts => (d.add (.effect e)).Admits parts
  | .told lines :: parts => d.flavortext = none ∧ (d.add (.told lines)).Admits parts
  | .select pos branches :: parts => d.select = none ∧ (d.add (.select pos branches)).Admits parts

theorem admits_iff (d : Draft) (parts : List Part) :
    d.Admits parts ↔ (d.flavortext.toList ++ parts.filterMap Part.lines?).length ≤ 1 ∧
      (d.select.toList.map Prod.snd ++ parts.filterMap Part.branches?).length ≤ 1 := by
  induction parts generalizing d with
  | nil => cases d.flavortext <;> cases d.select <;> simp [Admits]
  | cons part parts ih =>
    cases part with
    | effect e => simp [Admits, ih, add, List.filterMap_cons]
    | told lines =>
      cases told : d.flavortext with
      | none => simp [Admits, ih, add, told, List.filterMap_cons]
      | some earlier => simp [Admits, told, List.filterMap_cons]
    | select pos bs =>
      cases offered : d.select with
      | none => simp [Admits, ih, add, offered, List.filterMap_cons]
      | some earlier => simp [Admits, offered, List.filterMap_cons]

theorem effects_foldl (d : Draft) (parts : List Part) :
    (parts.foldl add d).effects = d.effects ++ parts.filterMap Part.effect? := by
  induction parts generalizing d with
  | nil => simp
  | cons part parts ih =>
    rw [List.foldl_cons, ih]
    cases part with
    | effect e => simp [add]
    | told lines => simp [add, List.filterMap_cons]
    | select pos bs => simp [add, List.filterMap_cons]

theorem flavortext_foldl {d : Draft} {parts : List Part} (admits : d.Admits parts) :
    (parts.foldl add d).flavortext.toList =
      d.flavortext.toList ++ parts.filterMap Part.lines? := by
  induction parts generalizing d with
  | nil => simp
  | cons part parts ih =>
    cases part with
    | effect e => exact ih admits
    | told lines =>
      obtain ⟨first, admits⟩ := admits
      rw [List.foldl_cons, ih admits, first]
      simp [add]
    | select pos bs => exact ih admits.2

theorem select_foldl {d : Draft} {parts : List Part} (admits : d.Admits parts) :
    (parts.foldl add d).select.toList.map Prod.snd =
      d.select.toList.map Prod.snd ++ parts.filterMap Part.branches? := by
  induction parts generalizing d with
  | nil => simp
  | cons part parts ih =>
    cases part with
    | effect e => exact ih admits
    | told lines => exact ih admits.2
    | select pos bs =>
      obtain ⟨first, admits⟩ := admits
      rw [List.foldl_cons, ih admits, first]
      simp [add]

/-- A tree is proper exactly if its parts make up a draft with branches. -/
theorem proper_iff (name : Text) (pos : Pos) (parts : List Part) :
    SceneTree.Proper ⟨name, pos, parts⟩ ↔
      Admits {} parts ∧ (parts.foldl add {}).select.isSome = true := by
  rw [SceneTree.Proper]
  constructor
  · rintro ⟨one, atMostOne⟩
    have admits : Admits {} parts := by
      rw [admits_iff]
      exact ⟨by simpa using atMostOne, by simp [one]⟩
    have same := congrArg List.length (select_foldl admits)
    exact ⟨admits, by simpa [one] using same⟩
  · rintro ⟨admits, offered⟩
    have same := congrArg List.length (select_foldl admits)
    obtain ⟨lines, -⟩ := (admits_iff {} parts).mp admits
    obtain ⟨chosen, offered⟩ := Option.isSome_iff_exists.mp offered
    exact ⟨by simpa [offered] using same.symm, by simpa using lines⟩

theorem scene_eq {name : Text} {pos : Pos} {parts : List Part} (admits : Admits {} parts)
    {at_ : Pos} {bs : List Branch} (offered : (parts.foldl add {}).select = some (at_, bs)) :
    SceneTree.scene ⟨name, pos, parts⟩ = ⟨name, pos, (parts.foldl add {}).flavortext,
      (parts.foldl add {}).effects, bs⟩ := by
  have told := congrArg List.head? (flavortext_foldl admits)
  have branches : bs = (parts.filterMap Part.branches?).flatten := by
    simpa [offered] using congrArg List.flatten (select_foldl admits)
  simp only [Option.toList_none, List.nil_append, Option.head?_toList] at told
  simp [SceneTree.scene, effects_foldl, told, branches]

end Draft

/-- A body that is read without findings consists of parts that the draft admits. -/
theorem body_sound {scene : Text} {draft : Draft} (clean : (body stop scene draft ts).2 = []) :
    ∃ parts, Each IsPart ts parts ∧ draft.Admits parts ∧
      (body stop scene draft ts).1 = some (parts.foldl Draft.add draft) := by
  fun_induction body stop scene draft ts with
  | case1 => exact ⟨[], .nil, trivial, rfl⟩
  | case2 => cases clean
  | case3 draft t rest key e after read ih =>
    obtain ⟨parts, each, admits, result⟩ := ih clean
    obtain ⟨us, split, isPart⟩ := effect_sound key read
    rw [split]
    exact ⟨.effect e :: parts, .cons isPart each, admits, result⟩
  | case4 => cases clean
  | case5 => cases clean
  | case6 draft t rest _ key told after read first ih =>
    obtain ⟨parts, each, admits, result⟩ := ih clean
    obtain ⟨us, split, isPart⟩ := flavortext_sound key read
    rw [split]
    exact ⟨.told told :: parts, .cons isPart each, ⟨by simpa using first, admits⟩, result⟩
  | case7 => cases clean
  | case8 => cases clean
  | case9 => cases clean
  | case10 draft t rest _ _ key bs after read first result findings eq something ih =>
    rw [eq] at ih
    obtain ⟨parts, each, admits, result⟩ := ih clean
    obtain ⟨us, split, isPart⟩ := select_sound key read (by simpa using something)
    rw [split]
    exact ⟨.select t.pos bs :: parts, .cons isPart each, ⟨first, admits⟩, result⟩
  | case11 => cases clean

theorem colon_sound {context : String} (clean : (colon stop context ts).1 = []) :
    ∃ mark, ts = mark :: (colon stop context ts).2 ∧ mark.kind = .colon := by
  unfold colon at clean ⊢
  split
  · next mark rest read =>
    obtain ⟨rfl, isColon⟩ := expect_eq_ok_iff.mp read
    exact ⟨mark, rfl, isColon⟩
  · next failed =>
    rw [failed] at clean
    cases clean

theorem sceneWithin_sound {start : Token} {inside : List Token}
    (clean : (sceneWithin start stop inside rest).2 = []) :
    ∃ name mark us parts, inside = name :: mark :: us ∧
      [name, mark].map Token.kind = [.name, .colon] ∧ Each IsPart us parts ∧
      SceneTree.Proper ⟨name.lexeme, start.pos, parts⟩ ∧
      (sceneWithin start stop inside rest).1 =
        some (SceneTree.scene ⟨name.lexeme, start.pos, parts⟩) := by
  cases read : expect stop .name "after @scene" inside with
  | error finding => simp [sceneWithin, read] at clean
  | ok named =>
    obtain ⟨name, afterName⟩ := named
    obtain ⟨rfl, isName⟩ := expect_eq_ok_iff.mp read
    simp only [sceneWithin, read] at clean ⊢
    -- Whichever way the draft went, what was found in the body is among the findings.
    have quiet : (colon stop "after scene name" afterName).1 = [] ∧
        (body stop name.lexeme {} (colon stop "after scene name" afterName).2).2 = [] := by
      split at clean
      · simpa using clean
      · split at clean
        · simpa using clean
        · simp at clean
    obtain ⟨mark, split, isColon⟩ := colon_sound quiet.1
    obtain ⟨parts, each, admits, draft⟩ := body_sound quiet.2
    rw [quiet.1, quiet.2] at clean
    rw [draft] at clean ⊢
    cases offered : (parts.foldl Draft.add {}).select with
    | none => simp [offered] at clean
    | some select =>
      refine ⟨name, mark, _, parts, by rw [← split], by simp [isName, isColon], each, ?_, ?_⟩
      · exact (Draft.proper_iff ..).mpr ⟨admits, by simp [offered]⟩
      · simp [offered, Draft.scene_eq admits offered]

theorem skip_sound (kind : Kind) (ts : List Token) :
    ∃ closing, ts = closing ++ skip kind ts ∧ closing.map Token.kind ∈ [[], [kind]] := by
  cases ts with
  | nil => exact ⟨[], rfl, by simp⟩
  | cons t rest =>
    by_cases same : t.kind = kind
    · exact ⟨[t], by simp [skip, same], by simp [same]⟩
    · exact ⟨[], by simp [skip, same], by simp⟩

theorem closeScene_sound (ts : List Token) :
    ∃ closing, ts = closing ++ closeScene ts ∧
      closing.map Token.kind ∈ [[], [.sceneEnd], [.sceneEnd, .semicolon]] := by
  cases ts with
  | nil => exact ⟨[], rfl, by simp⟩
  | cons t rest =>
    by_cases ends : t.kind = .sceneEnd
    · obtain ⟨marks, split, kinds⟩ := skip_sound .semicolon rest
      refine ⟨t :: marks, by simp [closeScene, ends, ← split], ?_⟩
      simpa [ends] using kinds
    · exact ⟨[], by simp [closeScene, ends], by simp⟩

/-- That there are no errors among findings. -/
def Clean (findings : List Finding) : Prop :=
  ∀ f ∈ findings, f.severity ≠ .error

theorem Clean.eq_nil {findings : List Finding} (clean : Clean findings)
    (errors : ∀ f ∈ findings, f.IsError) : findings = [] := by
  rw [List.eq_nil_iff_forall_not_mem]
  intro f member
  exact clean f member (errors f member).1

theorem clean_append {findings more : List Finding} :
    Clean (findings ++ more) ↔ Clean findings ∧ Clean more :=
  List.forall_mem_append

theorem not_clean_cons {pos : Pos} {problem : Problem} {atEnd : Bool} {findings : List Finding} :
    ¬Clean (⟨.error, pos, problem, atEnd⟩ :: findings) :=
  fun clean => clean _ List.mem_cons_self rfl

/-- A scene that is read without errors is one of the grammar, and the scene of its tree. -/
theorem scene_sound {last start : Token} {scene? : Option Scene} {findings : List Finding}
    (isStart : start.kind = .sceneStart) (read : scene last start ts = (scene?, findings, rest))
    (clean : Clean findings) :
    ∃ us tree, start :: ts = us ++ rest ∧ IsScene us tree ∧ tree.Proper ∧
      scene? = some tree.scene := by
  have quiet : (scene last start ts).2.1 = [] := by
    refine Clean.eq_nil ?_ (scene_isError last start ts)
    rwa [read]
  obtain ⟨name, mark, us, parts, inside, kinds, each, proper, result⟩ := sceneWithin_sound quiet
  obtain ⟨closing, split, ending⟩ := closeScene_sound (seek Kind.isBoundary ts)
  obtain ⟨rfl, -, rfl⟩ := read
  refine ⟨start :: name :: mark :: us ++ closing, _, ?_,
    .scene (by simpa [isStart] using kinds) each ending, proper, result⟩
  calc
    start :: ts = start :: (ts.takeWhile (!·.kind.isBoundary) ++ seek Kind.isBoundary ts) := by
      rw [seek, List.takeWhile_append_dropWhile]
    _ = start :: (name :: mark :: us ++ (closing ++ closeScene (seek Kind.isBoundary ts))) := by
      rw [inside, ← split]
    _ = start :: name :: mark :: us ++ closing ++ closeScene (seek Kind.isBoundary ts) := by simp

/-- A name that is not found among earlier ones keeps names distinct. -/
theorem nodup_of_find? {α : Type} (name : α → Text) {seen : List α} {a : α}
    (distinct : (seen.map name).Nodup)
    (fresh : (seen.find? fun earlier => decide (name earlier = name a)) = none) :
    ((seen ++ [a]).map name).Nodup := by
  simp only [List.find?_eq_none, decide_eq_true_eq] at fresh
  rw [List.map_append, List.nodup_append]
  refine ⟨distinct, by simp, fun n earlier m same => ?_⟩
  obtain ⟨b, member, rfl⟩ := List.mem_map.mp earlier
  obtain rfl : m = name a := by simpa using same
  exact fresh b member

theorem closeModule_sound (name : Text) (start : Pos) (ts : List Token) :
    ∃ closing, ts = closing ++ (closeModule name start ts).2 ∧
      closing.map Token.kind ∈ [[], [.name], [.semicolon], [.name, .semicolon]] := by
  cases ts with
  | nil => exact ⟨[], rfl, by simp⟩
  | cons t rest =>
    by_cases isName : t.kind = .name
    · obtain ⟨marks, split, kinds⟩ := skip_sound .semicolon rest
      refine ⟨t :: marks, by simp [closeModule, isName, ← split], ?_⟩
      simp only [List.mem_cons, List.not_mem_nil, or_false] at kinds
      rcases kinds with kinds | kinds
      · simp [isName, kinds]
      · simp [isName, kinds]
    · obtain ⟨marks, split, kinds⟩ := skip_sound .semicolon (t :: rest)
      refine ⟨marks, by simpa [closeModule, isName] using split, ?_⟩
      simp only [List.mem_cons, List.not_mem_nil, or_false] at kinds
      rcases kinds with kinds | kinds
      · simp [kinds]
      · simp [kinds]

/-- The scenes of a module that are read without errors, and its end, are those of the grammar. -/
theorem scenes_sound {last : Token} {module : Text} {start : Pos} {seen : List Scene}
    (clean : Clean (scenes last module start seen ts).2.1)
    (distinct : (seen.map Scene.name).Nodup) :
    ∃ us trees final closing,
      ts = us ++ final :: closing ++ (scenes last module start seen ts).2.2 ∧
      Each IsScene us trees ∧ (∀ t ∈ trees, t.Proper) ∧ final.kind = .moduleEnd ∧
      closing.map Token.kind ∈ [[], [.name], [.semicolon], [.name, .semicolon]] ∧
      (scenes last module start seen ts).1 = seen ++ trees.map SceneTree.scene ∧
      ((scenes last module start seen ts).1.map Scene.name).Nodup := by
  fun_induction scenes last module start seen ts with
  | case1 => exact absurd clean not_clean_cons
  -- A scene is dropped only with an error.
  | case2 seen t rest isStart findings after read found more left eq _ ih =>
    obtain ⟨us, tree, -, -, -, result⟩ := scene_sound isStart read (clean_append.mp clean).1
    cases result
  | case3 seen t rest isStart findings after s read first _ found more left eq _ ih =>
    exact absurd (clean_append.mp clean).2 not_clean_cons
  | case4 seen t rest isStart findings after s read fresh found more left eq _ ih =>
    obtain ⟨us, tree, split, isScene, proper, result⟩ :=
      scene_sound isStart read (clean_append.mp clean).1
    cases result
    rw [eq] at ih
    obtain ⟨us', trees, final, closing, rfl, each, propers, isEnd, kinds, scenes, names⟩ :=
      ih (clean_append.mp clean).2 (nodup_of_find? Scene.name distinct fresh)
    refine ⟨us ++ us', tree :: trees, final, closing, ?_, .cons isScene each, ?_, isEnd, kinds, ?_,
      names⟩
    · rw [split]
      simp
    · exact List.forall_mem_cons.mpr ⟨proper, propers⟩
    · simpa using scenes
  | case5 seen t rest _ isEnd warnings left eq =>
    obtain ⟨closing, split, kinds⟩ := closeModule_sound module start rest
    rw [eq] at split
    exact ⟨[], [], t, closing, by simp [← split], .nil, by simp, isEnd, kinds, by simp, distinct⟩
  | case6 => exact absurd clean not_clean_cons
  | case7 => exact absurd clean not_clean_cons

theorem names_scene (trees : List SceneTree) :
    (trees.map SceneTree.scene).map Scene.name = trees.map SceneTree.name := by
  simp [SceneTree.scene, Function.comp_def]

/-- A module that is read without errors is one of the grammar, and the module of its tree. -/
theorem module_sound {last start : Token} {file : Text} {module? : Option Module}
    {findings : List Finding} (isStart : start.kind = .moduleStart)
    (read : module last file start ts = (module?, findings, rest)) (clean : Clean findings) :
    ∃ us tree, start :: ts = us ++ rest ∧ IsModule us tree ∧ tree.Proper ∧
      module? = some (tree.module file) := by
  cases named : expect last .name "after @module" ts with
  | error finding =>
    have isError := ((expect_within ..).failed finding named).isError
    simp only [module, named] at read
    obtain ⟨rfl, rfl, rfl⟩ := read
    exact absurd isError.1 (clean finding List.mem_cons_self)
  | ok result =>
    obtain ⟨name, afterName⟩ := result
    obtain ⟨rfl, isName⟩ := expect_eq_ok_iff.mp named
    simp only [module, named] at read
    obtain ⟨rfl, rfl, rfl⟩ := read
    rw [clean_append] at clean
    obtain ⟨mark, split, isColon⟩ :=
      colon_sound (clean.1.eq_nil (colon_isError last "after module name" afterName))
    obtain ⟨us, trees, final, closing, whole, each, propers, isEnd, kinds, scenes, names⟩ :=
      scenes_sound clean.2 List.nodup_nil
    rw [scenes, List.nil_append, names_scene] at names
    refine ⟨start :: name :: mark :: us ++ final :: closing, ⟨name.lexeme, start.pos, trees⟩, ?_,
      .module (by simp [isStart, isName, isColon]) each isEnd kinds, ⟨propers, names⟩, ?_⟩
    · calc
        start :: name :: afterName =
            start :: name :: mark :: (colon last "after module name" afterName).2 := by rw [← split]
        _ = start :: name :: mark :: (us ++ final :: closing ++ _) := by rw [← whole]
        _ = start :: name :: mark :: us ++ final :: closing ++ _ := by simp
    · simp [ModuleTree.module, scenes]

/-- Tokens that are read without errors are those of modules of the grammar. -/
theorem modules_sound {last : Token} {file : Text} {seen : List Module}
    (clean : Clean (modules last file seen ts).2) (distinct : (seen.map Module.name).Nodup) :
    ∃ trees, Each IsModule ts trees ∧ (∀ t ∈ trees, t.Proper) ∧
      (modules last file seen ts).1 = seen ++ trees.map (ModuleTree.module file) ∧
      ((modules last file seen ts).1.map Module.name).Nodup := by
  fun_induction modules last file seen ts with
  | case1 => exact ⟨[], .nil, by simp, by simp, distinct⟩
  | case2 seen t rest isStart findings after read found more eq _ ih =>
    obtain ⟨us, tree, -, -, -, result⟩ := module_sound isStart read (clean_append.mp clean).1
    cases result
  | case3 seen t rest isStart findings after m read first _ found more eq _ ih =>
    exact absurd (clean_append.mp clean).2 not_clean_cons
  | case4 seen t rest isStart findings after m read fresh found more eq _ ih =>
    obtain ⟨us, tree, split, isModule, proper, result⟩ :=
      module_sound isStart read (clean_append.mp clean).1
    cases result
    rw [eq] at ih
    obtain ⟨trees, each, propers, modules, names⟩ :=
      ih (clean_append.mp clean).2 (nodup_of_find? Module.name distinct fresh)
    rw [split]
    refine ⟨tree :: trees, .cons isModule each, ?_, ?_, names⟩
    · exact List.forall_mem_cons.mpr ⟨proper, propers⟩
    · simpa using modules
  | case5 => exact absurd clean not_clean_cons

end Gamebook.Reading
