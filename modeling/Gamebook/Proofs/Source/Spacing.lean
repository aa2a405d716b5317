import Gamebook.Proofs.Source.Written

/-! # Tokens and the space between them

A text that is written token by token, with trivia in front of each token and after the last, is
read as just these tokens. It does not matter what the trivia is, as long as there is some between
two neighbours: whatever trivia starts with goes on with no token, so every token ends where it was
written to end. Comments can hold any bytes, which is why texts are divided here byte by byte.
-/

namespace Gamebook

/-- The texts that tokens of a kind have. -/
inductive Kind.Lexeme : Kind → Text → Prop where
  | fixed {kind : Kind} (fixed : kind.category = .keyword ∨ kind.category = .punctuation) :
    Lexeme kind kind.text
  | name {r : Rune} {rs : List Rune} (starts : r.startsName) (inside : ∀ x ∈ rs, x.inName)
      (free : ∀ k ∈ Kind.reserved, k.text ≠ Rune.encodeAll (r :: rs)) :
    Lexeme .name (Rune.encodeAll (r :: rs))
  | string {s : String} (plain : '"' ∉ s.toList) : Lexeme .string s

namespace Text

/-- Blanks, and comments with the ends of their lines. -/
inductive IsTrivia : Text → Prop where
  | nil : IsTrivia []
  | blank {c : Char} {t : Text} (blank : isBlank c) (rest : IsTrivia t) :
    IsTrivia (String.utf8EncodeChar c ++ t)
  | comment {body t : Text} (line : 0x0A ∉ body) (rest : IsTrivia t) :
    IsTrivia (0x23 :: body ++ 0x0A :: t)

/-- Trivia at the end of a text, where the line of the last comment need not end. -/
inductive IsTrailing : Text → Prop where
  | trivia {t : Text} (trivia : IsTrivia t) : IsTrailing t
  | comment {front body : Text} (trivia : IsTrivia front) (line : 0x0A ∉ body) :
    IsTrailing (front ++ 0x23 :: body)

/-- Tokens as they are written, with the texts in front of each of them and after the last. -/
def spaced (pieces : List (Text × Token)) (last : Text) : Text :=
  pieces.flatMap (fun p => p.1 ++ p.2.written) ++ last

/-- That no token in front of a text goes on in it, because trivia does. -/
def Parted (t : Text) : Prop :=
  ∀ r ∈ (Rune.decode t).head?, r.isBlank ∨ r = .char '#'

end Text

/-! ## Trivia in bytes and in runes -/

theorem Trivia.head {gap : List Rune} (trivia : Trivia gap) :
    ∀ r ∈ gap.head?, r.isBlank ∨ r = .char '#' := by
  cases trivia with
  | nil => simp
  | blank blank later =>
    rintro _ ⟨⟩
    exact .inl blank
  | comment line later =>
    rintro _ ⟨⟩
    exact .inr rfl

theorem Trailing.head {rs : List Rune} (trailing : Trailing rs) :
    ∀ r ∈ rs.head?, r.isBlank ∨ r = .char '#' := by
  cases trailing with
  | trivia trivia => exact trivia.head
  | @comment front body trivia line =>
    cases front with
    | nil =>
      rintro _ ⟨⟩
      exact .inr rfl
    | cons r front => exact trivia.head

namespace Rune

theorem decode_hash (t : Text) : decode (0x23 :: t) = .char '#' :: decode t :=
  decode_cons_of_lt (by decide) t

theorem decode_lineFeed (t : Text) : decode (0x0A :: t) = .char '\n' :: decode t :=
  decode_cons_of_lt (by decide) t

theorem lineFeed_not_mem_decode {body : Text} (line : 0x0A ∉ body) :
    .char '\n' ∉ decode body := by
  intro member
  apply line
  rw [← encodeAll_decode body]
  exact List.mem_flatMap.mpr ⟨_, member, List.mem_singleton_self _⟩

/-- What is blank can stand in no name. -/
theorem not_inName_of_isBlank {r : Rune} (blank : r.isBlank) : ¬r.inName := by
  intro inside
  rw [inName, Bool.or_eq_true, Bool.or_eq_true, decide_eq_true_eq, decide_eq_true_eq] at inside
  rcases inside with (starts | rfl) | rfl
  · exact not_isBlank_of_startsName starts blank
  · exact absurd blank (by decide)
  · exact absurd blank (by decide)

end Rune

namespace Text

variable {t : Text}

/-- The runes of trivia are trivia, whatever follows it. -/
theorem IsTrivia.exists_runes (is : t.IsTrivia) :
    ∃ gap, Trivia gap ∧ ∀ rest, Rune.decode (t ++ rest) = gap ++ Rune.decode rest := by
  induction is with
  | nil => exact ⟨[], .nil, fun _ => rfl⟩
  | @blank c t blank _ ih =>
    obtain ⟨gap, trivia, runes⟩ := ih
    refine ⟨.char c :: gap, .blank blank trivia, fun rest => ?_⟩
    rw [List.append_assoc, Rune.decode_encode_append, runes, List.cons_append]
  | @comment body t line _ ih =>
    obtain ⟨gap, trivia, runes⟩ := ih
    refine ⟨_, .comment (Rune.lineFeed_not_mem_decode line) trivia, fun rest => ?_⟩
    calc Rune.decode (0x23 :: body ++ 0x0A :: t ++ rest)
      _ = Rune.decode (0x23 :: (body ++ 0x0A :: (t ++ rest))) := by
        rw [List.append_assoc, List.cons_append, List.cons_append]
      _ = .char '#' :: (Rune.decode body ++ .char '\n' :: (gap ++ Rune.decode rest)) := by
        rw [Rune.decode_hash, Rune.decode_append_cons_of_lt body (by decide), Rune.decode_lineFeed,
          runes]
      _ = .char '#' :: Rune.decode body ++ .char '\n' :: gap ++ Rune.decode rest := by
        rw [List.append_assoc, List.cons_append, List.cons_append]

theorem IsTrivia.parted (is : t.IsTrivia) (more : t ≠ []) (rest : Text) : (t ++ rest).Parted := by
  obtain ⟨gap, trivia, runes⟩ := is.exists_runes
  have opens : gap ≠ [] := by
    rintro rfl
    have nothing := congrArg Rune.encodeAll (runes [])
    rw [List.append_nil, Rune.encodeAll_decode] at nothing
    exact more nothing
  rw [Parted, runes, List.head?_append_of_ne_nil _ opens]
  exact trivia.head

theorem IsTrailing.trailing (is : t.IsTrailing) : Trailing (Rune.decode t) := by
  cases is with
  | trivia is =>
    obtain ⟨gap, trivia, runes⟩ := is.exists_runes
    have whole : Rune.decode t = gap := by
      simpa [Rune.decode, Rune.decodeFrom] using runes []
    rw [whole]
    exact .trivia trivia
  | comment is line =>
    obtain ⟨gap, trivia, runes⟩ := is.exists_runes
    rw [runes, Rune.decode_hash]
    exact .comment trivia (Rune.lineFeed_not_mem_decode line)

theorem IsTrailing.parted (is : t.IsTrailing) : t.Parted :=
  is.trailing.head

/-! ## Tokens between trivia -/

namespace Parted

theorem ends (parted : t.Parted) : t.Ends := by
  intro r first
  rcases parted r first with blank | rfl
  · exact Rune.not_inName_of_isBlank blank
  · decide

theorem noColon (parted : t.Parted) : (Rune.decode t).head? ≠ some (.char ':') := by
  intro first
  rcases parted _ first with blank | hash
  · exact absurd blank (by decide)
  · exact absurd hash (by decide)

end Parted

theorem IsSpelling.mono {before fewer : Text → Prop} {kind : Kind} {lexeme : Text}
    (spelling : t.IsSpelling before kind lexeme) (fits : ∀ rest, fewer rest → before rest) :
    t.IsSpelling fewer kind lexeme := by
  obtain ⟨span, written, chars, spelled⟩ := spelling
  exact ⟨span, written, chars, fun rest given => spelled rest (fits rest given)⟩

end Text

namespace Kind

/-- The kinds that are always written alike. -/
theorem mem_of_fixed {kind : Kind}
    (fixed : kind.category = .keyword ∨ kind.category = .punctuation) :
    kind ∈ sigils ∨ kind ∈ reserved ∨ kind ∈ Rune.marks.map Prod.snd ∨
      kind = .scope ∨ kind = .colon ∨ kind = .arrow := by
  cases kind <;> revert fixed <;> decide

theorem isSpelling_text {kind : Kind}
    (fixed : kind.category = .keyword ∨ kind.category = .punctuation) :
    kind.text.IsSpelling Text.Parted kind kind.text := by
  rcases mem_of_fixed fixed with listed | listed | listed | rfl | rfl | rfl
  · exact (Text.isSpelling_sigil listed).mono fun _ => Text.Parted.ends
  · exact (Text.isWord_reserved listed).isSpelling.mono fun _ => Text.Parted.ends
  · exact (Text.isSpelling_mark listed).mono fun _ _ => trivial
  · exact Text.isSpelling_scope.mono fun _ _ => trivial
  · exact Text.isSpelling_colon.mono fun _ => Text.Parted.noColon
  · exact Text.isSpelling_arrow.mono fun _ _ => trivial

theorem ofWord_eq_name {w : Text} (free : ∀ k ∈ reserved, k.text ≠ w) : ofWord w = .name := by
  have none : reserved.find? (fun k => k.text = w) = none := by
    simpa using free
  rw [ofWord, none, Option.getD_none]

end Kind

theorem Text.isString_ofString {s : String} (plain : '"' ∉ s.toList) : Text.IsString s := by
  rw [← Rune.encodeAll_chars]
  apply isString_encodeAll
  intro r member
  obtain ⟨c, inside, rfl⟩ := List.mem_map.mp member
  rw [Rune.inString, decide_eq_true_eq]
  rintro rfl
  exact plain inside

/-- A token is spelled as it is written, wherever trivia follows it. -/
theorem Kind.Lexeme.isSpelling {kind : Kind} {lexeme : Text} (is : kind.Lexeme lexeme) (pos : Pos) :
    (Token.written ⟨kind, lexeme, pos⟩).IsSpelling Text.Parted kind lexeme := by
  cases is with
  | fixed fixed =>
    have plain : kind ≠ .string := by
      rintro rfl
      simp [Kind.category] at fixed
    rw [Token.written, if_neg plain]
    exact Kind.isSpelling_text fixed
  | @name r rs starts inside free =>
    have word : Text.IsName (Rune.encodeAll (r :: rs)) :=
      ⟨⟨r, rs, rfl, starts, inside⟩, Kind.ofWord_eq_name free⟩
    exact word.isSpelling.mono fun _ => Text.Parted.ends
  | string plain => exact (Text.isString_ofString plain).isSpelling.mono fun _ _ => trivial

namespace Text

variable {pieces : List (Text × Token)} {last : Text}

theorem spaced_cons (p : Text × Token) (pieces : List (Text × Token)) (last : Text) :
    spaced (p :: pieces) last = p.1 ++ (p.2.written ++ spaced pieces last) := by
  simp [spaced]

/-- Past a token there is trivia. -/
theorem parted_spaced (gaps : ∀ p ∈ pieces, p.1.IsTrivia) (apart : ∀ p ∈ pieces, p.1 ≠ [])
    (ends : last.IsTrailing) : (spaced pieces last).Parted := by
  cases pieces with
  | nil => exact ends.parted
  | cons p pieces =>
    rw [spaced_cons]
    exact (gaps p List.mem_cons_self).parted (apart p List.mem_cons_self) _

theorem spells_spaced (lexemes : ∀ p ∈ pieces, p.2.kind.Lexeme p.2.lexeme)
    (gaps : ∀ p ∈ pieces, p.1.IsTrivia) (apart : ∀ p ∈ pieces.tail, p.1 ≠ [])
    (ends : last.IsTrailing) : Spells (spaced pieces last) (pieces.map (·.2.content)) := by
  induction pieces with
  | nil => exact .ended ends.trailing
  | cons p pieces ih =>
    obtain ⟨lexeme, lexemes⟩ := List.forall_mem_cons.mp lexemes
    obtain ⟨gap, gaps⟩ := List.forall_mem_cons.mp gaps
    have later := ih lexemes gaps fun q member => apart q (List.mem_of_mem_tail member)
    have token := later.token (lexeme.isSpelling p.2.pos) (parted_spaced gaps apart ends)
    obtain ⟨runes, trivia, split⟩ := gap.exists_runes
    rw [spaced_cons, Spells, split]
    exact .gap trivia token

end Text

namespace Source

/-- A token that marks the end has no text. -/
theorem next_content_of_end {s : Source}
    (ends : s.next.failure ≠ none ∨ s.next.token.kind = .endOfInput) :
    s.next.token.content = (.endOfInput, []) := by
  cases failed : s.failed with
  | some failure =>
    rw [next, failed]
    rfl
  | none =>
    rw [next_of_fresh failed] at ends ⊢
    have reading := s.trimmed.reading_token
    generalize s.trimmed.token = scan at ends reading
    cases reading with
    | ended nothing whole => rfl
    | failed => rfl
    | token front spelled =>
      rcases ends with failure | kind
      · exact absurd rfl failure
      · exact absurd kind spelled.kind_ne_endOfInput

theorem tokens_last_content (s : Source) : s.tokens.last.content = (.endOfInput, []) := by
  fun_induction tokens s with
  | case1 s failure failed => exact next_content_of_end (.inl (by simp [failed]))
  | case2 s ok ended => exact next_content_of_end (.inr ended)
  | case3 s ok more following ih => exact ih

end Source

/-- Tokens that are written one after the other, with trivia in front of each, between any two and
    after the last, are read as just these tokens, and then the end is reached. Each can be a
    keyword, a mark, any name that is not reserved or any string of characters without a quote. -/
theorem spaced_tokens_are_read_back (file : Text) (pieces : List (Text × Token)) (last : Text)
    (lexemes : ∀ p ∈ pieces, p.2.kind.Lexeme p.2.lexeme) (gaps : ∀ p ∈ pieces, p.1.IsTrivia)
    (apart : ∀ p ∈ pieces.tail, p.1 ≠ []) (ends : last.IsTrailing) :
    let read := (Source.ofText file (Text.spaced pieces last)).tokens
    read.failure = none ∧
      read.all.map Token.content = pieces.map (·.2.content) ++ [(.endOfInput, [])] := by
  intro read
  have spells := Text.spells_spaced lexemes gaps apart ends
  obtain ⟨ok, contents⟩ : read.failure = none ∧
      read.list.map Token.content = pieces.map (·.2.content) :=
    Source.tokens_of_scans spells rfl rfl rfl
  refine ⟨ok, ?_⟩
  rw [Source.Tokens.all, ok, List.map_append, contents, List.map_singleton,
    Source.tokens_last_content]

/-- A comment that is no UTF-8 and a wide blank, one colon before two, a name that starts as a
    reserved word does, and a string that looks like a text of its own. -/
def Text.knot : List (Text × Token) :=
  [([0x23, 0xE3, 0x80, 0x0A, 0xE3, 0x80, 0x80], ⟨.sceneEnd, "@end-scene", .start⟩),
   ("#::\n", ⟨.colon, ":", .start⟩), ("\t", ⟨.scope, "::", .start⟩),
   ("\n", ⟨.name, "get-away", .start⟩), (" ", ⟨.string, "no # @scene\n::é", .start⟩)]

theorem spaced_tokens_are_read_back_knot :
    let read := (Source.ofText "knot" (Text.spaced Text.knot "# end")).tokens
    read.failure = none ∧ read.all.map Token.content =
      Text.knot.map (·.2.content) ++ [(.endOfInput, [])] := by
  have name : Kind.name.Lexeme "get-away" :=
    @Kind.Lexeme.name (.char 'g') ("et-away".toList.map .char) (by decide) (by decide) (by decide)
  have string : Kind.string.Lexeme "no # @scene\n::é" := .string (by decide)
  have space : Text.IsTrivia "\u3000" := .blank (by decide : Text.isBlank '\u3000') .nil
  have comment : Text.IsTrivia [0x23, 0xE3, 0x80, 0x0A, 0xE3, 0x80, 0x80] :=
    @Text.IsTrivia.comment [0xE3, 0x80] "\u3000" (by decide) space
  have colons : Text.IsTrivia "#::\n" := @Text.IsTrivia.comment "::" [] (by decide) .nil
  have blank (c : Char) (is : Text.isBlank c) : Text.IsTrivia (String.utf8EncodeChar c ++ []) :=
    .blank is .nil
  have last : Text.IsTrailing "# end" := @Text.IsTrailing.comment [] " end" .nil (by decide)
  apply spaced_tokens_are_read_back "knot" Text.knot "# end" ?_ ?_ (by decide) last
  · simp only [Text.knot, List.forall_mem_cons]
    exact ⟨.fixed (.inl rfl), .fixed (.inr rfl), .fixed (.inr rfl), name, string, by simp⟩
  · simp only [Text.knot, List.forall_mem_cons]
    exact ⟨comment, colons, blank '\t' rfl, blank '\n' rfl, blank ' ' rfl, by simp⟩

end Gamebook
