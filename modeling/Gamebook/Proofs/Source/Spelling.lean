import Gamebook.Source
import Gamebook.Proofs.Text.Rune
import Mathlib.Data.List.TakeWhile

/-! # How tokens are spelled

`Spelled` says which runes make a token, and before which runes they do: a word or a keyword ends
only where no further rune belongs to it, and one colon is a token only if no other follows. A
source without trivia at its front gives the token that is spelled there, and fails only if none is
or if reading breaks off.
-/

namespace Gamebook

/-- That runes spell a token if they stand before others. -/
inductive Spelled : (span following : List Rune) → Kind → Text → Prop where
  | word {r : Rune} {rs following : List Rune} (starts : r.startsName) (inside : ∀ x ∈ rs, x.inName)
      (maximal : ∀ x ∈ following.head?, ¬x.inName) :
    Spelled (r :: rs) following (.ofWord (Rune.encodeAll (r :: rs))) (Rune.encodeAll (r :: rs))
  | keyword {rs following : List Rune} {kind : Kind} (inside : ∀ x ∈ rs, x.inSigil)
      (maximal : ∀ x ∈ following.head?, ¬x.inSigil)
      (known : Kind.ofSigil? (Rune.encodeAll (.char '@' :: rs)) = some kind) :
    Spelled (.char '@' :: rs) following kind (Rune.encodeAll (.char '@' :: rs))
  | string {rs following : List Rune} (inside : ∀ x ∈ rs, x.inString) :
    Spelled (.char '"' :: rs ++ [.char '"']) following .string (Rune.encodeAll rs)
  | scope {following : List Rune} : Spelled [.char ':', .char ':'] following .scope "::"
  | colon {following : List Rune} (maximal : following.head? ≠ some (.char ':')) :
    Spelled [.char ':'] following .colon ":"
  | arrow {following : List Rune} : Spelled [.char '=', .char '>'] following .arrow "=>"
  | mark {r : Rune} {following : List Rune} {kind : Kind} (single : r.mark? = some kind) :
    Spelled [r] following kind kind.text

/-- The text that a token was read from. -/
def Token.written (t : Token) : Text :=
  if t.kind = .string then "\"" ++ t.lexeme ++ "\"" else t.lexeme

namespace Rune

/-- The runes that are tokens by themselves. -/
def marks : List (Rune × Kind) :=
  [(.char ';', .semicolon), (.char '\x7b', .leftBrace), (.char '\x7d', .rightBrace),
   (.char '(', .leftParen), (.char ')', .rightParen), (.char ',', .comma), (.char '?', .question)]

theorem mem_marks_of_mark? {r : Rune} {kind : Kind} (single : r.mark? = some kind) :
    (r, kind) ∈ marks := by
  unfold mark? at single
  split_ifs at single
  all_goals
    cases single
    subst r
    decide

theorem mark?_text {r : Rune} {kind : Kind} (single : r.mark? = some kind) :
    kind.text = r.encode ∧ kind ≠ .string ∧ kind ≠ .endOfInput := by
  have listed : ∀ mark ∈ marks,
      mark.2.text = mark.1.encode ∧ mark.2 ≠ .string ∧ mark.2 ≠ .endOfInput := by decide
  exact listed _ (mem_marks_of_mark? single)

/-- No other token starts with a mark. -/
theorem mark?_apart {r : Rune} {kind : Kind} (single : r.mark? = some kind) :
    r ≠ .char '@' ∧ r ≠ .char '"' ∧ r.startsName = false ∧ r ≠ .char ':' ∧ r ≠ .char '=' := by
  have listed : ∀ mark ∈ marks, mark.1 ≠ .char '@' ∧ mark.1 ≠ .char '"' ∧
      mark.1.startsName = false ∧ mark.1 ≠ .char ':' ∧ mark.1 ≠ .char '=' := by decide
  exact listed _ (mem_marks_of_mark? single)

end Rune

namespace Kind

theorem ofWord_ne (w : Text) : ofWord w ≠ .string ∧ ofWord w ≠ .endOfInput := by
  have plain : ∀ k ∈ reserved, k ≠ .string ∧ k ≠ .endOfInput := by decide
  unfold ofWord
  cases found : reserved.find? fun k => k.text = w with
  | none => decide
  | some k => exact plain k (List.mem_of_find?_eq_some found)

theorem ofSigil?_ne {w : Text} {kind : Kind} (known : ofSigil? w = some kind) :
    kind ≠ .string ∧ kind ≠ .endOfInput := by
  have plain : ∀ k ∈ sigils, k ≠ .string ∧ k ≠ .endOfInput := by decide
  exact plain kind (List.mem_of_find?_eq_some known)

end Kind

namespace Spelled

variable {span following : List Rune} {kind : Kind} {lexeme : Text}

theorem kind_ne_endOfInput (spelled : Spelled span following kind lexeme) :
    kind ≠ .endOfInput := by
  cases spelled with
  | word starts inside maximal => exact (Kind.ofWord_ne _).2
  | keyword inside maximal known => exact (Kind.ofSigil?_ne known).2
  | mark single => exact (Rune.mark?_text single).2.2
  | string | scope | colon | arrow => decide

theorem encodeAll_span (spelled : Spelled span following kind lexeme) (pos : Pos) :
    Rune.encodeAll span = Token.written ⟨kind, lexeme, pos⟩ := by
  cases spelled with
  | word starts inside maximal => exact (if_neg (Kind.ofWord_ne _).1).symm
  | keyword inside maximal known => exact (if_neg (Kind.ofSigil?_ne known).1).symm
  | mark single =>
    obtain ⟨text, plain, -⟩ := Rune.mark?_text single
    rw [Token.written, if_neg plain, text]
    simp
  | string inside =>
    rw [Token.written, if_pos rfl, Rune.encodeAll_append, Rune.encodeAll_cons]
    rfl
  | scope | colon | arrow => rfl

theorem ne_nil (spelled : Spelled span following kind lexeme) : span ≠ [] := by
  cases spelled <;> simp

end Spelled

namespace Source

variable {s : Source} {span following rest : List Rune} {kind : Kind} {lexeme : Text}

/-- A run of runes of one sort that cannot be made longer is what is taken from the front. -/
theorem run_exact {sort : Rune → Bool} {rs : List Rune} (following : List Rune)
    (inside : ∀ x ∈ rs, sort x) (maximal : ∀ x ∈ following.head?, ¬sort x) :
    (rs ++ following).takeWhile sort = rs ∧ (rs ++ following).dropWhile sort = following := by
  rw [List.takeWhile_append_of_pos inside, List.dropWhile_append_of_pos inside]
  cases following with
  | nil => simp
  | cons x rest =>
    have ends := maximal x rfl
    simp [ends]

/-- What is left when a run has been taken from the front does not go on with it. -/
theorem run_maximal (sort : Rune → Bool) (rs : List Rune) :
    ∀ x ∈ (rs.dropWhile sort).head?, ¬sort x := by
  intro x first
  have fails := List.head?_dropWhile_not sort rs
  rw [Option.mem_def.mp first] at fails
  simpa using fails

/-! ## What is spelled is read -/

theorem settle_of_sure {result : Scan} (sure : s.broken = none ∨ rest ≠ []) :
    s.settle span rest result = result := by
  unfold settle
  split
  · next broken => simp [broken] at sure
  · rfl

theorem token_cons {r : Rune} (front : s.rest = r :: rest) :
    s.token =
      if r = .char '@' then s.keyword rest
      else if r = .char '"' then s.string rest
      else if r.startsName then s.word
      else if r = .char ':' then s.colons rest
      else if r = .char '=' then s.arrow rest
      else
        match r.mark? with
        | some kind => s.accept kind kind.text [r] rest
        | none => s.reject (.unexpectedRune r) s.pos [r] rest := by
  obtain ⟨file, runes, pos, broken, failed⟩ := s
  subst front
  rfl

theorem arrow_of_ne {r : Rune} (other : r ≠ .char '>') (after : List Rune) :
    s.arrow (r :: after) = s.reject .loneEquals s.pos [.char '=', r] after := by
  unfold arrow
  split
  · next same => exact absurd (List.cons.inj same).1 other
  · next same =>
    obtain ⟨rfl, rfl⟩ := List.cons.inj same
    rfl
  · next nothing => cases nothing

theorem token_word {r : Rune} {rs : List Rune} (front : s.rest = r :: rs ++ following)
    (starts : r.startsName) (inside : ∀ x ∈ rs, x.inName)
    (maximal : ∀ x ∈ following.head?, ¬x.inName) (sure : s.broken = none ∨ following ≠ []) :
    s.token = s.accept (.ofWord (Rune.encodeAll (r :: rs))) (Rune.encodeAll (r :: rs)) (r :: rs)
      following := by
  have notSigil : r ≠ .char '@' := by
    rintro rfl
    exact absurd starts (by decide)
  have notQuote : r ≠ .char '"' := by
    rintro rfl
    exact absurd starts (by decide)
  have all : ∀ x ∈ r :: rs, x.inName :=
    List.forall_mem_cons.mpr ⟨inName_of_startsName starts, inside⟩
  obtain ⟨taken, left⟩ := run_exact following all maximal
  rw [token_cons front, if_neg notSigil, if_neg notQuote, if_pos starts, word, front, taken, left]
  exact settle_of_sure sure

theorem token_keyword {rs : List Rune} (front : s.rest = .char '@' :: rs ++ following)
    (inside : ∀ x ∈ rs, x.inSigil) (maximal : ∀ x ∈ following.head?, ¬x.inSigil)
    (known : Kind.ofSigil? (Rune.encodeAll (.char '@' :: rs)) = some kind)
    (sure : s.broken = none ∨ following ≠ []) :
    s.token = s.accept kind (Rune.encodeAll (.char '@' :: rs)) (.char '@' :: rs) following := by
  obtain ⟨taken, left⟩ := run_exact following inside maximal
  rw [List.cons_append] at front
  rw [token_cons front, if_pos rfl]
  simp only [keyword, taken, left, known]
  exact settle_of_sure sure

theorem token_string {rs : List Rune}
    (front : s.rest = .char '"' :: rs ++ [.char '"'] ++ following) (inside : ∀ x ∈ rs, x.inString) :
    s.token = s.accept .string (Rune.encodeAll rs) (.char '"' :: rs ++ [.char '"']) following := by
  obtain ⟨taken, left⟩ :=
    run_exact (.char '"' :: following) inside (by rintro _ ⟨⟩; decide)
  rw [List.append_assoc, List.cons_append, List.singleton_append] at front
  rw [token_cons front, if_neg (by decide), if_pos rfl]
  unfold string
  rw [taken, left]

/-- A token that is spelled at the front is read, unless it may go on where reading breaks off. -/
theorem token_of_spelled (front : s.rest = span ++ following)
    (spelled : Spelled span following kind lexeme) (sure : s.broken = none ∨ following ≠ []) :
    s.token = s.accept kind lexeme span following := by
  cases spelled with
  | word starts inside maximal => exact token_word front starts inside maximal sure
  | keyword inside maximal known => exact token_keyword front inside maximal known sure
  | string inside => exact token_string front inside
  | scope => exact token_cons front
  | colon maximal =>
    rw [List.singleton_append] at front
    rw [token_cons front, if_neg (by decide), if_neg (by decide), if_neg (by decide), if_pos rfl,
      colons]
    · exact settle_of_sure sure
    · rintro after rfl
      exact maximal rfl
  | arrow => exact token_cons front
  | mark single =>
    obtain ⟨notSigil, notQuote, noName, notColon, notEquals⟩ := Rune.mark?_apart single
    rw [token_cons front, if_neg notSigil, if_neg notQuote, noName, if_neg Bool.false_ne_true,
      if_neg notColon, if_neg notEquals, single]
    rfl

/-! ## What is read is spelled -/

/-- What can come of reading the front of a source without trivia there. -/
inductive Reading (s : Source) : Scan → Prop where
  | ended (nothing : s.rest = []) (whole : s.broken = none) :
    Reading s (s.accept .endOfInput [] [] [])
  | token {span following : List Rune} {kind : Kind} {lexeme : Text}
      (front : s.rest = span ++ following) (spelled : Spelled span following kind lexeme) :
    Reading s (s.accept kind lexeme span following)
  | failed {failure : Failure} {span rest : List Rune} : Reading s (s.stop failure span rest)

theorem reading_settle {result : Scan} (reading : s.Reading result) :
    s.Reading (s.settle span rest result) := by
  unfold settle
  split
  · exact .failed
  · exact reading

theorem reading_keyword (front : s.rest = .char '@' :: rest) : s.Reading (s.keyword rest) := by
  apply reading_settle
  split
  · next kind known =>
    refine .token ?_ (.keyword (fun x => List.mem_takeWhile_imp) (run_maximal _ _) known)
    rw [front, List.cons_append, List.takeWhile_append_dropWhile]
  · exact .failed

theorem reading_string (front : s.rest = .char '"' :: rest) : s.Reading (s.string rest) := by
  have stops := run_maximal Rune.inString rest
  have whole := List.takeWhile_append_dropWhile (p := Rune.inString) (l := rest)
  unfold string
  split
  · next c after left =>
    rw [left] at stops whole
    obtain rfl : c = '"' := by simpa [Rune.inString] using stops
    refine .token ?_ (.string fun x => List.mem_takeWhile_imp)
    rw [front, List.append_assoc, List.cons_append, List.singleton_append, whole]
  · exact .failed
  · exact reading_settle .failed

theorem reading_word {r : Rune} (front : s.rest = r :: rest) (starts : r.startsName) :
    s.Reading s.word := by
  have taken : s.rest.takeWhile Rune.inName = r :: rest.takeWhile Rune.inName := by
    rw [front, List.takeWhile_cons, if_pos (inName_of_startsName starts)]
  apply reading_settle
  rw [taken]
  refine .token ?_ (.word starts (fun x => List.mem_takeWhile_imp) (run_maximal _ _))
  rw [← taken, List.takeWhile_append_dropWhile]

theorem reading_colons (front : s.rest = .char ':' :: rest) : s.Reading (s.colons rest) := by
  unfold colons
  split
  · exact .token front .scope
  · next single =>
    refine reading_settle (.token front (.colon fun first => ?_))
    obtain ⟨after, more⟩ := List.head?_eq_some_iff.mp first
    exact single after more

theorem reading_arrow (front : s.rest = .char '=' :: rest) : s.Reading (s.arrow rest) := by
  unfold arrow
  split
  · exact .token front .arrow
  · exact .failed
  · exact .failed

theorem reading_token (s : Source) : s.Reading s.token := by
  unfold token
  split
  · next nothing =>
    split
    · exact .failed
    · next whole => exact .ended nothing whole
  · next r rest front =>
    split
    · next sigil => exact reading_keyword (sigil ▸ front)
    split
    · next quote => exact reading_string (quote ▸ front)
    split
    · next starts => exact reading_word front starts
    split
    · next colon => exact reading_colons (colon ▸ front)
    split
    · next equals => exact reading_arrow (equals ▸ front)
    split
    · next kind single => exact .token front (.mark single)
    · exact .failed

/-- A source that can be read to its end fails only where something stands and no token is
    spelled. -/
theorem stuck_of_failed {failure : Failure} (failed : s.token.failure = some failure)
    (whole : s.broken = none) :
    s.rest ≠ [] ∧ ∀ span following kind lexeme, s.rest = span ++ following →
      ¬Spelled span following kind lexeme := by
  constructor
  · intro nothing
    simp [token, nothing, whole, accept] at failed
  · intro span following kind lexeme front spelled
    rw [token_of_spelled front spelled (.inl whole)] at failed
    simp [accept] at failed

/-! ## Reading to the end -/

theorem tokens_of_failed {failure : Failure} (failed : s.next.failure = some failure) :
    s.tokens = ⟨[], s.next.token, some failure⟩ := by
  rw [tokens]
  split
  · next other => rw [Option.some.inj (failed.symm.trans other)]
  · next ok => simp [failed] at ok

theorem tokens_of_ended (ok : s.next.failure = none) (ended : s.next.token.kind = .endOfInput) :
    s.tokens = ⟨[], s.next.token, none⟩ := by
  rw [tokens]
  split
  · next failed => simp [ok] at failed
  · rw [dif_pos ended]

theorem tokens_of_more (ok : s.next.failure = none) (more : s.next.token.kind ≠ .endOfInput) :
    s.tokens =
      { s.next.source.tokens with list := s.next.token :: s.next.source.tokens.list } := by
  rw [tokens]
  split
  · next failed => simp [ok] at failed
  · rw [dif_neg more]

end Source

end Gamebook
