import Gamebook.Proofs.Script.Completeness
import Gamebook.Proofs.Script.Streaming

/-! # Reading accepts exactly the grammar

A source whose tokens can be read is read without errors exactly if its tokens are those of a script
of the grammar, and then as the script that their tree stands for. There is one such tree only,
since what stands at the front of tokens determines both the tree of the first part and what is
left.
-/

namespace Gamebook

open Grammar Reading

namespace Grammar

/-- That tokens determine, as far as they belong to a part that is followed by something fitting,
    the tree of the part and what follows. -/
def Determined {α : Type} (Is : List Token → α → Prop) (Follow : List Token → Prop) : Prop :=
  ∀ ⦃us a us' a' rest rest'⦄, Is us a → Is us' a' → Follow rest → Follow rest' →
    us ++ rest = us' ++ rest' → a = a' ∧ rest = rest'

/-- If one part determines where the next one starts, so do any number of them. -/
theorem Determined.each {α : Type} {Is : List Token → α → Prop} {Next End : List Token → Prop}
    (determined : Determined Is Next) (next : ∀ {us a rest}, Is us a → Next (us ++ rest))
    (apart : ∀ {us a rest}, Is us a → ¬End (us ++ rest)) (last : ∀ {rest}, End rest → Next rest) :
    Determined (Each Is) End := by
  have follow {us : List Token} {as : List α} {rest : List Token} (each : Each Is us as)
      (ends : End rest) : Next (us ++ rest) := by
    cases each with
    | nil => exact last ends
    | cons is each =>
      rw [List.append_assoc]
      exact next is
  intro us as us' as' rest rest' each each' ends ends' same
  induction each generalizing us' as' with
  | nil =>
    cases each' with
    | nil => exact ⟨rfl, same⟩
    | cons is' each' =>
      rw [List.nil_append, List.append_assoc] at same
      exact absurd (same ▸ ends) (apart is')
  | cons is each ih =>
    rw [List.append_assoc] at same
    cases each' with
    | nil =>
      rw [List.nil_append] at same
      exact absurd (same ▸ ends') (apart is)
    | cons is' each' =>
      rw [List.append_assoc] at same
      obtain ⟨rfl, same⟩ := determined is is' (follow each ends) (follow each' ends') same
      obtain ⟨rfl, rfl⟩ := ih each' same
      exact ⟨rfl, rfl⟩

/-- What a scene goes on with, read by the readers for each kind of part. -/
def part? (stop : Token) : List Token → Option (Part × List Token)
  | [] => none
  | t :: rest =>
    if t.kind = .get ∨ t.kind = .lose then
      (effect stop t rest).toOption.map fun (e, rest) => (.effect e, rest)
    else if t.kind = .flavortext then
      (flavortext stop rest).toOption.map fun (told, rest) => (.told told, rest)
    else (select stop rest).toOption.map fun (bs, rest) => (.select t.pos bs, rest)

theorem part?_complete (stop : Token) {us : List Token} {part : Part} (is : IsPart us part)
    (rest : List Token) :
    part? stop (us ++ rest) = some (part, rest) := by
  have effect {key : Token} {ts : List Token} {e : Effect} (is : IsPart (key :: ts) (.effect e)) :
      part? stop (key :: ts ++ rest) = some (.effect e, rest) := by
    obtain ⟨isKey, read⟩ : _ ∧ Reading.effect stop key (ts ++ rest) = .ok (e, rest) :=
      effect_complete is
    rw [List.cons_append, part?, if_pos isKey, read]
    rfl
  cases is with
  | get kinds => exact effect (.get kinds)
  | lose kinds => exact effect (.lose kinds)
  | told opening lines closing =>
    simp only [List.map_cons, List.map_nil, List.cons.injEq, and_true] at opening
    obtain ⟨isKey, isLeft⟩ := opening
    simp [part?, isKey, flavortext_complete isLeft lines closing, Except.toOption]
  | select opening branches closing =>
    simp only [List.map_cons, List.map_nil, List.cons.injEq, and_true] at opening
    obtain ⟨isKey, isLeft⟩ := opening
    simp [part?, isKey, select_complete isLeft branches closing, Except.toOption]

theorem part_determined : Determined IsPart fun _ => True := by
  intro us part us' part' rest rest' is is' _ _ same
  have read := part?_complete default is rest
  rw [same, part?_complete default is' rest'] at read
  obtain ⟨rfl, rfl⟩ := Prod.mk.inj (Option.some.inj read)
  exact ⟨rfl, rfl⟩

theorem parts_determined :
    Determined (Each IsPart) fun rest => ∀ t ∈ rest.head?, t.kind.isBoundary = true := by
  refine part_determined.each (fun _ => trivial) (fun is boundary => ?_) (fun _ => trivial)
  have inner := inner_part is
  cases is <;> simpa [inner _ List.mem_cons_self] using boundary _ rfl

theorem scene_determined : Determined IsScene fun rest =>
    ∀ t ∈ rest.head?, t.kind = .sceneStart ∨ t.kind = .moduleEnd := by
  intro us tree us' tree' rest rest' is is' follow follow' same
  cases is with
  | scene opening each ending =>
    cases is' with
    | scene opening' each' ending' =>
      simp only [List.cons_append, List.append_assoc, List.cons.injEq] at same
      obtain ⟨rfl, rfl, rfl, same⟩ := same
      obtain ⟨rfl, same⟩ := parts_determined each each' (isBoundary_of_ending ending follow)
        (isBoundary_of_ending ending' follow') same
      have left := congrArg closeScene same
      rw [closeScene_complete ending follow, closeScene_complete ending' follow'] at left
      exact ⟨rfl, left⟩

theorem scenes_determined : Determined (Each IsScene) fun rest =>
    ∃ final more, rest = final :: more ∧ final.kind = .moduleEnd := by
  refine scene_determined.each (fun is => ?_) (fun is ends => ?_) ?_
  · obtain ⟨start, ts, rfl, isStart⟩ := scene_head is
    intro t front
    obtain rfl : start = t := Option.some.inj front
    exact .inl isStart
  · obtain ⟨start, ts, rfl, isStart⟩ := scene_head is
    obtain ⟨final, more, same, isEnd⟩ := ends
    obtain ⟨rfl, -⟩ := List.cons.inj same
    simp [isStart] at isEnd
  · rintro rest ⟨final, more, rfl, isEnd⟩ t front
    obtain rfl : final = t := Option.some.inj front
    exact .inr isEnd

theorem module_determined :
    Determined IsModule fun rest => ∀ t ∈ rest.head?, t.kind = .moduleStart := by
  intro us tree us' tree' rest rest' is is' follow follow' same
  cases is with
  | module opening each isEnd ending =>
    cases is' with
    | module opening' each' isEnd' ending' =>
      simp only [List.cons_append, List.append_assoc, List.cons.injEq] at same
      obtain ⟨rfl, rfl, rfl, same⟩ := same
      obtain ⟨rfl, same⟩ := scenes_determined each each' ⟨_, _, rfl, isEnd⟩ ⟨_, _, rfl, isEnd'⟩ same
      have left := congrArg (fun rest => (closeModule [] .start rest).2) (List.cons.inj same).2
      rw [closeModule_complete ending follow, closeModule_complete ending' follow'] at left
      exact ⟨rfl, left⟩

/-- The grammar is not ambiguous. -/
theorem modules_unique {ts : List Token} {trees trees' : List ModuleTree}
    (each : Each IsModule ts trees) (each' : Each IsModule ts trees') : trees = trees' := by
  have determined : Determined (Each IsModule) (· = []) := by
    refine module_determined.each (fun is => ?_) (fun is ends => ?_) ?_
    · obtain ⟨start, ts, rfl, isStart⟩ := module_head is
      intro t front
      obtain rfl : start = t := Option.some.inj front
      exact isStart
    · obtain ⟨start, ts, rfl, -⟩ := module_head is
      cases ends
    · rintro rest rfl t front
      cases front
  exact (determined each each' rfl rfl rfl).1

end Grammar

/-- Tokens that could be read to their end give modules and what was found in them. -/
theorem Script.ofTokens_of_scanned {file : Text} {ts : Source.Tokens} (scanned : ts.failure = none) :
    Script.ofTokens file ts = (⟨file, (Reading.modules ts.last file [] ts.list).1⟩,
      (Reading.modules ts.last file [] ts.list).2.map (Finding.diagnostic file)) := by
  simp [Script.ofTokens, diagnostics, scanned]

/-- There is an error among the diagnostics of tokens that could be read exactly if there is one
    among the findings. -/
theorem Script.hasErrors_ofTokens {file : Text} {ts : Source.Tokens} (scanned : ts.failure = none) :
    Diagnostic.hasErrors (Script.ofTokens file ts).2 = false ↔
      Clean (Reading.modules ts.last file [] ts.list).2 := by
  simp only [Script.ofTokens_of_scanned scanned, Diagnostic.hasErrors, List.any_map,
    List.any_eq_false]
  exact forall_congr' fun f => imp_congr_right fun _ => not_congr decide_eq_true_iff

theorem Script.hasErrors_parse {s : Source} (scanned : s.tokens.failure = none) :
    Diagnostic.hasErrors (Script.parse s).2 = false ↔
      Clean (Reading.modules s.tokens.last s.file [] s.tokens.list).2 :=
  Script.hasErrors_ofTokens scanned

theorem names_module (file : Text) (trees : List ModuleTree) :
    (trees.map (ModuleTree.module file)).map Module.name = trees.map ModuleTree.name := by
  simp [ModuleTree.module, Function.comp_def]

/-- A source whose tokens can be read is read without errors exactly if its tokens are those of a
    script of the grammar. Then they are those of one script only, and that one is what is read. Nor
    does anything else come of it to read the source token by token. -/
theorem parse_accepts_grammar (s : Source) (scanned : s.tokens.failure = none) :
    Pull.parse? s = some (Script.parse s) ∧
    (Diagnostic.hasErrors (Script.parse s).2 = false ↔ ∃ trees, IsScript s.tokens.list trees) ∧
    ∀ trees, IsScript s.tokens.list trees →
      (Script.parse s).1 = ⟨s.file, trees.map (ModuleTree.module s.file)⟩ ∧
        ∀ others, IsScript s.tokens.list others → others = trees := by
  have read {trees : List ModuleTree} (is : IsScript s.tokens.list trees) :
      (modules s.tokens.last s.file [] s.tokens.list).1 = trees.map (ModuleTree.module s.file) ∧
        Clean (modules s.tokens.last s.file [] s.tokens.list).2 := by
    obtain ⟨each, propers, distinct⟩ := is
    rw [← names_module s.file] at distinct
    exact modules_complete each propers distinct
  refine ⟨Script.parse?_eq_parse s (Script.fresh_of_scanned scanned), ?_,
    fun trees is => ⟨?_, fun others are => modules_unique are.1 is.1⟩⟩
  · rw [Script.hasErrors_parse scanned]
    constructor
    · intro clean
      obtain ⟨trees, each, propers, found, distinct⟩ := modules_sound clean List.nodup_nil
      rw [found, List.nil_append, names_module] at distinct
      exact ⟨trees, each, propers, distinct⟩
    · rintro ⟨trees, is⟩
      exact (read is).2
  · rw [Script.parse, Script.ofTokens]
    simp [(read is).1]

/-- A script that closes its module under another name, which is only a warning. -/
theorem parse_accepts_grammar_closed_otherwise :
    let s := Source.ofText "f" (("@module m: @scene s: select" : Text) ++
      ("\x7b has no \"key\" ? \"go\" => @file(\"g\")::n::t, \x7d; @end-module n;" : Text))
    s.tokens.failure = none ∧ (Script.parse s).2 ≠ [] ∧ Pull.parse? s = some (Script.parse s) ∧
      ∃ trees, IsScript s.tokens.list trees ∧
        (Script.parse s).1 = ⟨s.file, trees.map (ModuleTree.module s.file)⟩ := by
  intro s
  have scanned : s.tokens.failure = none := by decide +kernel
  have clean : Diagnostic.hasErrors (Script.parse s).2 = false := by decide +kernel
  obtain ⟨pulled, accepted, result⟩ := parse_accepts_grammar s scanned
  obtain ⟨trees, is⟩ := accepted.mp clean
  exact ⟨scanned, by decide +kernel, pulled, trees, is, (result trees is).1⟩

end Gamebook
