import Gamebook.Proofs.Source.Layout
import Gamebook.Proofs.Text.Quoted

/-! # Texts that are written token by token

`Scans` says as which tokens runes are read that have nothing but trivia between the tokens, and
`Text.Spells` says it of a text. For each sort of token there is a lemma that gives its spelling
(`Text.IsSpelling`), and one that puts it in front of a text. Conversely, every token that is read
was spelled, which says of what runes the texts of names and strings consist.
-/

namespace Gamebook

/-- That runes are read as tokens of the given kinds and texts, with only trivia between them. -/
inductive Scans : List Rune → List (Kind × Text) → Prop where
  | ended {rs : List Rune} (trailing : Trailing rs) : Scans rs []
  | gap {gap rs : List Rune} {ks : List (Kind × Text)} (trivia : Trivia gap) (rest : Scans rs ks) :
    Scans (gap ++ rs) ks
  | token {span following : List Rune} {kind : Kind} {lexeme : Text} {ks : List (Kind × Text)}
      (spelled : Spelled span following kind lexeme) (rest : Scans following ks) :
    Scans (span ++ following) ((kind, lexeme) :: ks)

/-- The kind and the text of a token that is always written alike. -/
def Kind.content (k : Kind) : Kind × Text :=
  (k, k.text)

/-- The kind and the text of a token. -/
def Token.content (t : Token) : Kind × Text :=
  (t.kind, t.lexeme)

namespace Text

/-- The codes in some ranges. -/
def codes (ranges : List (Nat × Nat)) : List Nat :=
  ranges.flatMap fun (lo, hi) => List.range' lo (hi + 1 - lo)

theorem mem_codes {ranges : List (Nat × Nat)} {n : Nat} (inside : inRanges ranges n) :
    n ∈ codes ranges := by
  induction ranges with
  | nil => simp [inRanges] at inside
  | cons range ranges ih =>
    obtain ⟨lo, hi⟩ := range
    rw [codes, List.flatMap_cons]
    unfold inRanges at inside
    split_ifs at inside with below upTo
    · exact List.mem_append_left _ (List.mem_range'_1.mpr (by omega))
    · exact List.mem_append_right _ (ih inside)

end Text

namespace Rune

/-- No name starts with a blank. -/
theorem not_isBlank_of_startsName {r : Rune} (starts : r.startsName) : ¬r.isBlank := by
  have listed : ∀ n ∈ Text.codes Text.blankRanges, ¬(Rune.char (Char.ofNat n)).startsName := by
    decide +kernel
  cases r with
  | stray b => simp [isBlank]
  | char c =>
    intro blank
    have apart := listed c.toNat (Text.mem_codes blank)
    rw [Char.ofNat_toNat] at apart
    exact apart starts

theorem isChar_of_inName {r : Rune} (inside : r.inName) : r.isChar := by
  cases r with
  | char c => rfl
  | stray b => simp [inName, isLetter, isDigit] at inside

end Rune

/-- A token starts with what is no trivia. -/
theorem Spelled.front {span following : List Rune} {kind : Kind} {lexeme : Text}
    (spelled : Spelled span following kind lexeme) :
    ∃ r rs, span = r :: rs ∧ ¬r.isBlank ∧ r ≠ .char '#' := by
  cases spelled with
  | word starts inside maximal =>
    refine ⟨_, _, rfl, Rune.not_isBlank_of_startsName starts, ?_⟩
    rintro rfl
    exact absurd starts (by decide)
  | mark single =>
    have listed : ∀ mark ∈ Rune.marks, ¬mark.1.isBlank ∧ mark.1 ≠ .char '#' := by decide
    exact ⟨_, [], rfl, listed _ (Rune.mem_marks_of_mark? single)⟩
  | keyword | string | scope | colon | arrow => exact ⟨_, _, rfl, by decide, by decide⟩

namespace Source

variable {s : Source}

/-- The tokens of a source are given by what comes next in it. -/
theorem tokens_congr {other : Source} (same : s.next = other.next) : s.tokens = other.tokens := by
  cases failed : s.next.failure with
  | some failure => rw [tokens_of_failed failed, tokens_of_failed (same ▸ failed), same]
  | none =>
    by_cases ended : s.next.token.kind = .endOfInput
    · rw [tokens_of_ended failed ended, tokens_of_ended (same ▸ failed) (same ▸ ended), same]
    · rw [tokens_of_more failed ended,
        tokens_of_more (s := other) (same ▸ failed) (same ▸ ended), same]

/-- Runes that scan as tokens are read as them. -/
theorem tokens_of_scans {rs : List Rune} {ks : List (Kind × Text)} (scans : Scans rs ks)
    (left : s.rest = rs) (whole : s.broken = none) (fresh : s.failed = none) :
    s.tokens.failure = none ∧ s.tokens.list.map Token.content = ks := by
  induction scans generalizing s with
  | @ended rs trailing =>
    have nothing : s.trimmed.rest = [] := skipTrivia_trailing (left ▸ trailing) s.pos
    have ended : s.next = s.trimmed.accept .endOfInput [] [] [] := by
      rw [next_of_fresh fresh, token, nothing, trimmed, whole]
    rw [tokens_of_ended (by rw [ended]; rfl) (by rw [ended]; rfl)]
    exact ⟨rfl, rfl⟩
  | @gap gap rs ks trivia scans ih =>
    let past : Source := { s with rest := rs, pos := s.pos.afterAll gap }
    have same : s.next = past.next := by
      rw [next_of_fresh fresh, next_of_fresh (s := past) fresh]
      simp only [trimmed, left, skipTrivia_append trivia, past]
    rw [tokens_congr same]
    exact ih rfl whole fresh
  | @token span following kind lexeme ks spelled scans ih =>
    obtain ⟨r, more, front, noBlank, noComment⟩ := spelled.front
    have untrimmed : s.trimmed = s := by
      obtain ⟨file, rest, pos, broken, failed⟩ := s
      subst left front
      simp [trimmed, skipTrivia, noBlank, noComment]
    have read : s.next = s.accept kind lexeme span following := by
      rw [next_of_fresh fresh, untrimmed, token_of_spelled left spelled (.inl whole)]
    obtain ⟨ok, contents⟩ : s.next.source.tokens.failure = none ∧
        s.next.source.tokens.list.map Token.content = ks := by
      rw [read]
      exact ih rfl whole fresh
    rw [tokens_of_more (by rw [read]; rfl) (by rw [read]; exact spelled.kind_ne_endOfInput)]
    refine ⟨ok, ?_⟩
    rw [List.map_cons, contents, read]
    rfl

theorem spelled_next (ok : s.next.failure = none) (more : s.next.token.kind ≠ .endOfInput) :
    ∃ span following, Spelled span following s.next.token.kind s.next.token.lexeme := by
  cases failed : s.failed with
  | some failure => simp [next, failed] at ok
  | none =>
    rw [next_of_fresh failed] at ok more ⊢
    have reading := s.trimmed.reading_token
    generalize s.trimmed.token = scan at ok more reading
    cases reading with
    | ended nothing whole => exact absurd rfl more
    | token front spelled => exact ⟨_, _, spelled⟩
    | failed => simp [stop] at ok

/-- Every token that is read was spelled. -/
theorem spelled_of_mem_tokens {t : Token} (member : t ∈ s.tokens.list) :
    ∃ span following, Spelled span following t.kind t.lexeme := by
  fun_induction tokens s with
  | case1 s failure failed => cases member
  | case2 s ok ended => cases member
  | case3 s ok more following ih =>
    rcases List.mem_cons.mp member with rfl | later
    · exact spelled_next ok more
    · exact ih later

end Source

namespace Text

/-- That a text is a word of the given kind, a name or a reserved word. -/
structure IsWord (t : Text) (kind : Kind) : Prop where
  runes : ∃ r rs, t = Rune.encodeAll (r :: rs) ∧ r.startsName ∧ ∀ x ∈ rs, x.inName
  sort : Kind.ofWord t = kind

abbrev IsName (t : Text) : Prop :=
  t.IsWord .name

theorem isWord_reserved {kind : Kind} (listed : kind ∈ Kind.reserved) : kind.text.IsWord kind := by
  have all : ∀ k ∈ Kind.reserved, (∃ r ∈ (Rune.decode k.text).head?, r.startsName) ∧
      (∀ x ∈ (Rune.decode k.text).tail, x.inName) ∧ Kind.ofWord k.text = k := by decide
  obtain ⟨⟨r, first, starts⟩, inside, sort⟩ := all kind listed
  obtain ⟨rs, runes⟩ := List.head?_eq_some_iff.mp first
  rw [runes] at inside
  exact ⟨⟨r, rs, by rw [← runes, Rune.encodeAll_decode], starts, inside⟩, sort⟩

end Text

namespace Spelled

variable {span following : List Rune} {kind : Kind} {lexeme : Text}

/-- Only words are names. -/
theorem isName (spelled : Spelled span following kind lexeme) (named : kind = .name) :
    lexeme.IsName := by
  cases spelled with
  | word starts inside maximal => exact ⟨⟨_, _, rfl, starts, inside⟩, named⟩
  | keyword inside maximal known =>
    have others : ∀ k ∈ Kind.sigils, k ≠ .name := by decide
    exact absurd named (others kind (List.mem_of_find?_eq_some known))
  | mark single =>
    have others : ∀ mark ∈ Rune.marks, mark.2 ≠ .name := by decide
    exact absurd named (others _ (Rune.mem_marks_of_mark? single))
  | string | scope | colon | arrow => cases named

theorem isString (spelled : Spelled span following kind lexeme) (quoted : kind = .string) :
    lexeme.IsString := by
  cases spelled with
  | string inside => exact Text.isString_encodeAll inside
  | word starts inside maximal => exact absurd quoted (Kind.ofWord_ne _).1
  | keyword inside maximal known => exact absurd quoted (Kind.ofSigil?_ne known).1
  | mark single => exact absurd quoted (Rune.mark?_text single).2.1
  | scope | colon | arrow => cases quoted

end Spelled

namespace Text

/-- That a text is read as tokens of the given kinds and texts. -/
def Spells (t : Text) (ks : List (Kind × Text)) : Prop :=
  Scans (Rune.decode t) ks

/-- That no word or keyword in front of a text goes on in it. -/
def Ends (t : Text) : Prop :=
  ∀ r ∈ (Rune.decode t).head?, ¬r.inName

theorem ends_nil : Ends [] := by
  simp [Ends, Rune.decode, Rune.decodeFrom]

theorem ends_append (front : Text) {rest : Text}
    (apart : front.head?.any fun b =>
      b.toNat < 0x80 && !(Rune.char (Char.ofNat b.toNat)).inName) :
    Ends (front ++ rest) := by
  cases front with
  | nil => cases apart
  | cons b front =>
    obtain ⟨small, ends⟩ : b.toNat < 0x80 ∧ ¬(Rune.char (Char.ofNat b.toNat)).inName := by
      simpa using apart
    rw [Ends, List.cons_append, Rune.decode_cons_of_lt small]
    rintro _ ⟨⟩
    exact ends

/-- That a text is made of characters that spell a token before such texts as are given. -/
def IsSpelling (t : Text) (before : Text → Prop) (kind : Kind) (lexeme : Text) : Prop :=
  ∃ span, t = Rune.encodeAll span ∧ (∀ r ∈ span, r.isChar) ∧
    ∀ rest, before rest → Spelled span (Rune.decode rest) kind lexeme

theorem IsWord.isSpelling {t : Text} {kind : Kind} (is : t.IsWord kind) :
    t.IsSpelling Ends kind t := by
  obtain ⟨⟨r, rs, rfl, starts, inside⟩, rfl⟩ := is
  have all : ∀ x ∈ r :: rs, x.inName :=
    List.forall_mem_cons.mpr ⟨Source.inName_of_startsName starts, inside⟩
  exact ⟨r :: rs, rfl, fun x member => Rune.isChar_of_inName (all x member),
    fun rest ends => .word starts inside ends⟩

theorem isSpelling_sigil {kind : Kind} (listed : kind ∈ Kind.sigils) :
    kind.text.IsSpelling Ends kind kind.text := by
  have all : ∀ k ∈ Kind.sigils, (Rune.decode k.text).head? = some (.char '@') ∧
      (∀ x ∈ (Rune.decode k.text).tail, x.inSigil) ∧ (∀ x ∈ Rune.decode k.text, x.isChar) ∧
      Kind.ofSigil? k.text = some k := by decide
  obtain ⟨first, inside, chars, known⟩ := all kind listed
  obtain ⟨rs, runes⟩ := List.head?_eq_some_iff.mp first
  have written : kind.text = Rune.encodeAll (.char '@' :: rs) := by
    rw [← runes, Rune.encodeAll_decode]
  rw [runes] at inside chars
  rw [written] at known ⊢
  refine ⟨_, rfl, chars, fun rest ends => .keyword inside (fun x front => ?_) known⟩
  have apart := ends x front
  simp only [Rune.inName, Bool.or_eq_true, not_or] at apart
  simp only [Rune.inSigil, Bool.or_eq_true, not_or]
  exact ⟨apart.1.1.1, apart.1.2⟩

theorem isSpelling_mark {kind : Kind} (listed : kind ∈ Rune.marks.map Prod.snd) :
    kind.text.IsSpelling (fun _ => True) kind kind.text := by
  have all : ∀ mark ∈ Rune.marks, mark.1.mark? = some mark.2 ∧ mark.1.isChar := by decide
  obtain ⟨⟨r, kind⟩, member, rfl⟩ := List.mem_map.mp listed
  obtain ⟨single, char⟩ := all _ member
  refine ⟨[r], ?_, by simpa using char, fun rest _ => .mark single⟩
  simp [(Rune.mark?_text single).1]

theorem IsString.isSpelling {t : Text} (string : t.IsString) :
    IsSpelling ("\"" ++ t ++ "\"") (fun _ => True) .string t := by
  refine ⟨.char '"' :: Rune.decode t ++ [.char '"'], ?_, ?_, fun rest _ => ?_⟩
  · rw [Rune.encodeAll_append, Rune.encodeAll_cons, Rune.encodeAll_decode]
    rfl
  · intro r member
    simp only [List.cons_append, List.mem_cons, List.mem_append, List.not_mem_nil, or_false]
      at member
    rcases member with rfl | within | rfl
    · rfl
    · exact Rune.isChar_of_inString (string r within)
    · rfl
  · have spelled : Spelled _ (Rune.decode rest) .string _ := .string string
    rwa [Rune.encodeAll_decode] at spelled

theorem isSpelling_scope : Kind.scope.text.IsSpelling (fun _ => True) .scope Kind.scope.text :=
  ⟨[.char ':', .char ':'], rfl, by decide, fun _ _ => .scope⟩

theorem isSpelling_arrow : Kind.arrow.text.IsSpelling (fun _ => True) .arrow Kind.arrow.text :=
  ⟨[.char '=', .char '>'], rfl, by decide, fun _ _ => .arrow⟩

theorem isSpelling_colon : Kind.colon.text.IsSpelling
    (fun rest => (Rune.decode rest).head? ≠ some (.char ':')) .colon Kind.colon.text :=
  ⟨[.char ':'], rfl, by decide, fun _ alone => .colon alone⟩

namespace Spells

variable {rest : Text} {ks : List (Kind × Text)}

theorem nil : Spells [] [] :=
  Scans.ended (.trivia .nil)

theorem gap (blanks : Text) (blank : blanks.all fun b => b = 0x20 || b = 0x0A)
    (spells : Spells rest ks) : Spells (blanks ++ rest) ks := by
  induction blanks with
  | nil => exact spells
  | cons b blanks ih =>
    obtain ⟨first, others⟩ : (b = 0x20 ∨ b = 0x0A) ∧ blanks.all fun b => b = 0x20 || b = 0x0A := by
      simpa only [List.all_cons, Bool.and_eq_true, Bool.or_eq_true, decide_eq_true_eq] using blank
    have later := ih others
    rcases first with rfl | rfl
    · rw [Spells, List.cons_append, Rune.decode_cons_of_lt (by decide)]
      exact .gap (.blank (by decide) .nil) later
    · rw [Spells, List.cons_append, Rune.decode_cons_of_lt (by decide)]
      exact .gap (.blank (by decide) .nil) later

/-- A token is spelled in front of a text. -/
theorem token {t : Text} {before : Text → Prop} {kind : Kind} {lexeme : Text}
    (spelling : t.IsSpelling before kind lexeme) (fits : before rest) (spells : Spells rest ks) :
    Spells (t ++ rest) ((kind, lexeme) :: ks) := by
  obtain ⟨span, rfl, chars, spelled⟩ := spelling
  rw [Spells, Rune.decode_encodeAll_append chars]
  exact .token (spelled rest fits) spells

theorem word {t : Text} {kind : Kind} (is : t.IsWord kind) (spells : Spells rest ks)
    (ends : rest.Ends) : Spells (t ++ rest) ((kind, t) :: ks) :=
  spells.token is.isSpelling ends

/-- A reserved word with a space after it. -/
theorem reserved (kind : Kind) (listed : kind ∈ Kind.reserved) (spells : Spells rest ks) :
    Spells (kind.text ++ ((" " : Text) ++ rest)) (kind.content :: ks) :=
  (spells.gap " " (by decide)).word (isWord_reserved listed) (ends_append " " (by decide))

theorem keyword (kind : Kind) (listed : kind ∈ Kind.sigils) (spells : Spells rest ks)
    (ends : rest.Ends) : Spells (kind.text ++ rest) (kind.content :: ks) :=
  spells.token (isSpelling_sigil listed) ends

theorem mark (kind : Kind) (listed : kind ∈ Rune.marks.map Prod.snd) (spells : Spells rest ks) :
    Spells (kind.text ++ rest) (kind.content :: ks) :=
  spells.token (isSpelling_mark listed) trivial

theorem string {t : Text} (string : t.IsString) (spells : Spells rest ks) :
    Spells (t.quoted ++ rest) ((.string, t.escaped) :: ks) :=
  spells.token (isString_escaped string).isSpelling trivial

theorem scope (spells : Spells rest ks) :
    Spells (Kind.scope.text ++ rest) (Kind.scope.content :: ks) :=
  spells.token isSpelling_scope trivial

theorem arrow (spells : Spells rest ks) :
    Spells (Kind.arrow.text ++ rest) (Kind.arrow.content :: ks) :=
  spells.token isSpelling_arrow trivial

/-- A colon at the end of a line. -/
theorem colon (spells : Spells rest ks) :
    Spells ((":\n" : Text) ++ rest) (Kind.colon.content :: ks) := by
  have line : Spells ([0x0A] ++ rest) ks := spells.gap [0x0A] (by decide)
  have alone : (Rune.decode ([0x0A] ++ rest)).head? ≠ some (.char ':') := by
    rw [List.singleton_append, Rune.decode_cons_of_lt (by decide)]
    exact fun same => absurd (Option.some.inj same) (by decide)
  have spelled := line.token isSpelling_colon alone
  exact spelled

end Spells

end Text

end Gamebook
