import Gamebook.Source
import Gamebook.Proofs.Text.Rune
import Mathlib.Data.List.Basic
import Mathlib.Data.List.TakeWhile

/-! # What quoting does to a string

Between quotes a plain rune stands for itself, and for every other one stands an escape: a backslash
and letters or digits after it, more bytes than the rune has. So what stands between the quotes can
be read as a string again, and it is the text that was quoted exactly if all runes of that are
plain.
-/

namespace Gamebook

namespace Rune

/-- Whether a rune is written between quotes as it is: a printable character, but no backslash. -/
def isPlain : Rune → Bool
  | .char c => Text.isPrintable c && c ≠ '\\'
  | .stray _ => false

theorem isChar_of_inString {r : Rune} (inside : r.inString) : r.isChar := by
  cases r with
  | char c => rfl
  | stray b => exact inside

theorem decode_encodeAll {rs : List Rune} (chars : ∀ r ∈ rs, r.isChar) :
    decode (encodeAll rs) = rs := by
  simpa [decode, decodeFrom] using decode_encodeAll_append chars []

/-- The characters whose codes are the given bytes. -/
def ofBytes (bytes : Text) : List Rune :=
  bytes.map fun b => .char (Char.ofNat b.toNat)

theorem encodeAll_ofBytes {bytes : Text} (small : ∀ b ∈ bytes, b.toNat < 0x80) :
    encodeAll (ofBytes bytes) = bytes := by
  induction bytes with
  | nil => rfl
  | cons b bytes ih =>
    obtain ⟨first, others⟩ := List.forall_mem_cons.mp small
    have shown := encodeAll_decode (b :: [])
    rw [decode_cons_of_lt first, encodeAll_cons] at shown
    rw [ofBytes, List.map_cons, encodeAll_cons]
    exact congrArg₂ (· ++ ·) ((List.append_nil _).symm.trans shown) (ih others)

/-- Whether a byte can stand in an escape after the backslash. -/
def inEscape (b : UInt8) : Bool :=
  b.toNat < 0x80 && b ≠ 0x22

theorem inString_of_inEscape {b : UInt8} (inside : inEscape b) :
    (Rune.char (Char.ofNat b.toNat)).inString := by
  have codes : ∀ n < 0x80, n ≠ 0x22 → (Rune.char (Char.ofNat n)).inString := by decide
  simp only [inEscape, Bool.and_eq_true, decide_eq_true_eq] at inside
  exact codes b.toNat inside.1 fun quote => inside.2 (UInt8.toNat_inj.mp quote)

theorem inEscape_hex (width n : Nat) : (Text.hex width n).all inEscape := by
  have digit : ∀ n < 16, inEscape (Text.hexDigit n) := by decide
  induction width generalizing n with
  | zero => rfl
  | succ width ih => simp [Text.hex, ih, digit (n % 16) (Nat.mod_lt n (by decide))]

theorem length_hex (width n : Nat) : (Text.hex width n).length = width := by
  induction width generalizing n with
  | zero => rfl
  | succ width ih => simp [Text.hex, ih]

theorem escaped_of_isPlain {r : Rune} (inside : r.inString) (plain : r.isPlain) :
    escaped '"' r = r.encode := by
  cases r with
  | stray b => simp [isPlain] at plain
  | char c =>
    simp only [inString, isPlain, Bool.and_eq_true, decide_eq_true_eq] at inside plain
    have unmarked : ¬(c = '"' ∨ c = '\\') := not_or.mpr ⟨inside, plain.2⟩
    rw [escaped, if_neg unmarked, if_pos plain.1, encode]

theorem utf8Size_le (c : Char) :
    c.utf8Size ≤ 4 ∧ (c.toNat < 0x10000 → c.utf8Size ≤ 3) ∧ (c.toNat < 0x80 → c.utf8Size ≤ 1) := by
  rw [← String.length_utf8EncodeChar, String.utf8EncodeChar, Char.toNat_val]
  split_ifs
  all_goals
    simp only [List.length_cons, List.length_nil]
    omega

/-- The control characters that have a letter. -/
theorem escaped_of_lettered : ∀ c ∈ ['\x07', '\x08', '\x0C', '\n', '\r', '\t', '\x0B'],
    escaped '"' (.char c) = 0x5C :: (escaped '"' (.char c)).tail ∧
      (escaped '"' (.char c)).tail.all inEscape ∧
      (encode (.char c)).length ≤ (escaped '"' (.char c)).tail.length := by
  intro c member
  simp only [List.mem_cons, List.not_mem_nil, or_false] at member
  rcases member with rfl | rfl | rfl | rfl | rfl | rfl | rfl
  all_goals exact ⟨rfl, by decide, by decide⟩

/-- A rune that is not plain is written as an escape, which is longer than the rune. -/
theorem escaped_of_not_isPlain {r : Rune} (inside : r.inString) (special : ¬r.isPlain) :
    ∃ bytes, escaped '"' r = 0x5C :: bytes ∧ bytes.all inEscape ∧
      r.encode.length ≤ bytes.length := by
  cases r with
  | stray b => simp [inString] at inside
  | char c =>
    by_cases slash : c = '\\'
    · subst slash
      exact ⟨[0x5C], rfl, by decide, by decide⟩
    have hidden : ¬Text.isPrintable c := fun shown => special (by simp [isPlain, shown, slash])
    have notQuote : ¬(c = '"' ∨ c = '\\') := by
      rintro (rfl | same)
      · exact absurd inside (by decide)
      · exact slash same
    by_cases lettered : c ∈ ['\x07', '\x08', '\x0C', '\n', '\r', '\t', '\x0B']
    · exact ⟨_, escaped_of_lettered c lettered⟩
    simp only [List.mem_cons, List.not_mem_nil, or_false, not_or] at lettered
    obtain ⟨bell, back, form, feed, carriage, tab, vertical⟩ := lettered
    obtain ⟨four, three, one⟩ := utf8Size_le c
    rw [escaped, if_neg notQuote, if_neg hidden, if_neg bell, if_neg back, if_neg form, if_neg feed,
      if_neg carriage, if_neg tab, if_neg vertical, encode, String.length_utf8EncodeChar]
    -- What is left are escapes by the code, in three widths.
    have coded (kind : UInt8) (width : Nat) (letter : inEscape kind) (wide : c.utf8Size ≤ width) :
        ∃ bytes, 0x5C :: kind :: Text.hex width c.toNat = 0x5C :: bytes ∧
          bytes.all inEscape ∧ c.utf8Size ≤ bytes.length := by
      refine ⟨_, rfl, by simp [letter, inEscape_hex], ?_⟩
      simp only [List.length_cons, length_hex]
      omega
    split
    · next small => exact coded 0x78 2 (by decide) (Nat.le_succ_of_le (one small))
    split
    · next small => exact coded 0x75 4 (by decide) (Nat.le_succ_of_le (three small))
    · exact coded 0x55 8 (by decide) (Nat.le_trans four (by decide))

/-- What is written for a rune of a string is made of such runes, and it is blank only if the rune
    is. -/
theorem exists_escaped {r : Rune} (inside : r.inString) :
    ∃ rs, escaped '"' r = encodeAll rs ∧ (∀ x ∈ rs, x.inString) ∧
      (¬r.isBlank → ∃ x ∈ rs, ¬x.isBlank) := by
  by_cases plain : r.isPlain
  · refine ⟨[r], ?_, by simpa using inside, fun shown => ⟨r, by simp, shown⟩⟩
    simp [escaped_of_isPlain inside plain]
  · obtain ⟨bytes, written, all, -⟩ := escaped_of_not_isPlain inside plain
    have slashed : ∀ b ∈ 0x5C :: bytes, inEscape b :=
      List.forall_mem_cons.mpr ⟨by decide, List.all_eq_true.mp all⟩
    refine ⟨ofBytes (0x5C :: bytes), ?_, ?_, fun _ => ⟨.char '\\', ?_, by decide⟩⟩
    · rw [written, encodeAll_ofBytes]
      intro b member
      have := slashed b member
      simp only [inEscape, Bool.and_eq_true, decide_eq_true_eq] at this
      exact this.1
    · intro x member
      obtain ⟨b, inBytes, rfl⟩ := List.mem_map.mp member
      exact inString_of_inEscape (slashed b inBytes)
    · exact List.mem_cons_self

end Rune

namespace Text

/-- That a text can stand between quotes in a source. -/
def IsString (t : Text) : Prop :=
  ∀ r ∈ Rune.decode t, r.inString

/-- What stands for a text between quotes. -/
def escaped (t : Text) : Text :=
  (Rune.decode t).flatMap (Rune.escaped '"')

theorem isString_encodeAll {rs : List Rune} (inside : ∀ r ∈ rs, r.inString) :
    IsString (Rune.encodeAll rs) := by
  rw [IsString, Rune.decode_encodeAll fun r member => Rune.isChar_of_inString (inside r member)]
  exact inside

/-- The runes that stand for a string between quotes. -/
theorem exists_runes_escaped {rs : List Rune} (inside : ∀ r ∈ rs, r.inString) :
    ∃ written, rs.flatMap (Rune.escaped '"') = Rune.encodeAll written ∧
      (∀ x ∈ written, x.inString) ∧ ((∃ r ∈ rs, ¬r.isBlank) → ∃ x ∈ written, ¬x.isBlank) := by
  induction rs with
  | nil => exact ⟨[], rfl, by simp, by simp⟩
  | cons r rs ih =>
    obtain ⟨first, others⟩ := List.forall_mem_cons.mp inside
    obtain ⟨front, writtenFront, insideFront, shownFront⟩ := Rune.exists_escaped first
    obtain ⟨back, writtenBack, insideBack, shownBack⟩ := ih others
    refine ⟨front ++ back, ?_, List.forall_mem_append.mpr ⟨insideFront, insideBack⟩, ?_⟩
    · rw [List.flatMap_cons, writtenFront, writtenBack, Rune.encodeAll_append]
    · rintro ⟨x, member, shown⟩
      rcases List.mem_cons.mp member with rfl | later
      · obtain ⟨y, here, yShown⟩ := shownFront shown
        exact ⟨y, List.mem_append_left back here, yShown⟩
      · obtain ⟨y, here, yShown⟩ := shownBack ⟨x, later, shown⟩
        exact ⟨y, List.mem_append_right front here, yShown⟩

theorem isString_escaped {t : Text} (string : t.IsString) : t.escaped.IsString := by
  obtain ⟨written, same, inside, -⟩ := exists_runes_escaped string
  rw [escaped, same]
  exact isString_encodeAll inside

theorem dropWhile_dropWhile_eq_nil_iff (blank : Rune → Bool) (rs : List Rune) :
    (rs.dropWhile blank).reverse.dropWhile blank = [] ↔ ∀ r ∈ rs, blank r := by
  simp only [List.dropWhile_eq_nil_iff, List.mem_reverse]
  constructor
  · intro all r member
    rw [← List.takeWhile_append_dropWhile (p := blank) (l := rs)] at member
    rcases List.mem_append.mp member with before | after
    · exact List.mem_takeWhile_imp before
    · exact all r after
  · exact fun all r member => all r ((List.dropWhile_sublist blank).subset member)

theorem trim_ne_nil_iff (t : Text) : t.trim ≠ [] ↔ ∃ r ∈ Rune.decode t, ¬r.isBlank := by
  have written : ∀ r : Rune, r.encode ≠ [] := by
    rintro (c | b)
    · exact List.ne_nil_of_length_pos (by simpa [Rune.encode] using c.utf8Size_pos)
    · simp [Rune.encode]
  have nothing (rs : List Rune) : Rune.encodeAll rs = [] ↔ rs = [] := by
    cases rs with
    | nil => simp
    | cons r rs => simp [written]
  rw [trim, ne_eq, nothing, List.reverse_eq_nil_iff, dropWhile_dropWhile_eq_nil_iff]
  push Not
  rfl

theorem trim_escaped {t : Text} (string : t.IsString) (shown : t.trim ≠ []) :
    t.escaped.trim ≠ [] := by
  obtain ⟨written, same, inside, blanks⟩ := exists_runes_escaped string
  rw [trim_ne_nil_iff] at shown ⊢
  rw [escaped, same,
    Rune.decode_encodeAll fun r member => Rune.isChar_of_inString (inside r member)]
  exact blanks shown

theorem flatMap_escaped_of_plain {rs : List Rune} (inside : ∀ r ∈ rs, r.inString)
    (plain : ∀ r ∈ rs, r.isPlain) : rs.flatMap (Rune.escaped '"') = Rune.encodeAll rs :=
  List.flatMap_congr fun r member => Rune.escaped_of_isPlain (inside r member) (plain r member)

theorem plain_or_longer {rs : List Rune} (inside : ∀ r ∈ rs, r.inString) :
    (∀ r ∈ rs, r.isPlain) ∨
      (Rune.encodeAll rs).length < (rs.flatMap (Rune.escaped '"')).length := by
  induction rs with
  | nil => exact .inl (by simp)
  | cons r rs ih =>
    obtain ⟨first, others⟩ := List.forall_mem_cons.mp inside
    rw [Rune.encodeAll_cons, List.flatMap_cons, List.length_append, List.length_append]
    by_cases plain : r.isPlain
    · rw [Rune.escaped_of_isPlain first plain]
      rcases ih others with all | longer
      · exact .inl (List.forall_mem_cons.mpr ⟨plain, all⟩)
      · exact .inr (Nat.add_lt_add_left longer _)
    · obtain ⟨bytes, written, -, size⟩ := Rune.escaped_of_not_isPlain first plain
      have noShorter : (Rune.encodeAll rs).length ≤ (rs.flatMap (Rune.escaped '"')).length := by
        rcases ih others with all | longer
        · exact Nat.le_of_eq (congrArg _ (flatMap_escaped_of_plain others all).symm)
        · exact Nat.le_of_lt longer
      rw [written, List.length_cons]
      exact .inr (by omega)

/-- A string is written between quotes as it is exactly if all its runes are plain. -/
theorem escaped_eq_iff {t : Text} (string : t.IsString) :
    t.escaped = t ↔ ∀ r ∈ Rune.decode t, r.isPlain := by
  constructor
  · intro same
    refine (plain_or_longer string).resolve_right fun longer => ?_
    rw [Rune.encodeAll_decode, ← escaped, same] at longer
    exact Nat.lt_irrefl _ longer
  · intro plain
    rw [escaped, flatMap_escaped_of_plain string plain, Rune.encodeAll_decode]

end Text

end Gamebook
