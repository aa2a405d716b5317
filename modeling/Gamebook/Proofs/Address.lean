import Gamebook.Address
import Gamebook.Proofs.Text.Quoted
import Mathlib.Algebra.Group.Nat.Defs

/-! # Addresses can be told apart

Whatever rune stands between quotes, it can be read back from what was written for it
(`Rune.unescape?`), and no rune is written with a quote in front. So it is clear where a quoted text
ends and which text was quoted. In the text of an address the file is quoted, and the module ends at
the first colon behind it. So the texts of two addresses differ if the addresses do, as long as
their modules are named without colons.
-/

namespace Gamebook

namespace Text

/-- The value of a hexadecimal digit in lower case. -/
def hexDigitValue (digit : UInt8) : Nat :=
  if digit.toNat < 0x61 then digit.toNat - 0x30 else digit.toNat - 0x57

/-- The number that hexadecimal digits stand for. -/
def hexNumber (digits : Text) : Nat :=
  digits.foldl (fun n digit => n * 16 + hexDigitValue digit) 0

theorem hexDigitValue_hexDigit {n : Nat} (small : n < 16) : hexDigitValue (hexDigit n) = n := by
  have all : ∀ n < 16, hexDigitValue (hexDigit n) = n := by decide
  exact all n small

theorem hexNumber_hex {width n : Nat} (small : n < 16 ^ width) : hexNumber (hex width n) = n := by
  induction width generalizing n with
  | zero =>
    obtain rfl : n = 0 := by simpa using small
    rfl
  | succ width ih =>
    have front : n / 16 < 16 ^ width := Nat.div_lt_of_lt_mul (by rwa [← Nat.pow_succ'])
    have last := hexDigitValue_hexDigit (Nat.mod_lt n (by decide : 0 < 16))
    have before := ih front
    unfold hexNumber at before ⊢
    rw [hex, List.foldl_append, before, List.foldl_cons, List.foldl_nil, last]
    exact Nat.div_add_mod' n 16

end Text

namespace Rune

/-! ## Reading an escape -/

/-- The character that stands after a backslash itself or by its letter. -/
def ofLetter? (b : UInt8) : Option Char :=
  ([(0x22, '"'), (0x5C, '\\'), (0x61, '\x07'), (0x62, '\x08'), (0x66, '\x0C'), (0x6E, '\n'),
    (0x72, '\r'), (0x74, '\t'), (0x76, '\x0B')] : List (UInt8 × Char)).lookup b

/-- How many digits come after a backslash and the given letter. -/
def codeWidth? (b : UInt8) : Option Nat :=
  ([(0x78, 2), (0x75, 4), (0x55, 8)] : List (UInt8 × Nat)).lookup b

/-- The rune with a code of so many digits. Two digits are enough for stray bytes and for the
    characters below them. -/
def ofCode (width n : Nat) : Rune :=
  if width = 2 ∧ 0x80 ≤ n then .stray n.toUInt8 else .char (Char.ofNat n)

/-- The rune that an escape stands for, read from behind its backslash, and what follows it. -/
def escape? : Text → Option (Rune × Text)
  | [] => none
  | kind :: rest =>
    match ofLetter? kind with
    | some c => some (.char c, rest)
    | none =>
      (codeWidth? kind).map fun width =>
        (ofCode width (Text.hexNumber (rest.take width)), rest.drop width)

/-- The rune that was written between quotes at the front of a text, and what follows it. Nothing is
    left to read at the closing quote. -/
def unescape? : Text → Option (Rune × Text)
  | [] => none
  | b :: rest =>
    if b = 0x22 then none
    else if b = 0x5C then escape? rest
    else
      (frontChar? (b :: rest)).map fun c =>
        (.char c, (b :: rest).drop (String.utf8EncodeChar c).length)

/-- That a rune is one of those that texts are read as: a small byte is never stray. -/
def IsRead : Rune → Prop
  | .char _ => True
  | .stray b => 0x80 ≤ b.toNat

theorem isRead_of_mem_decodeFrom {r : Rune} {t : Text} {skip : Nat}
    (member : r ∈ decodeFrom skip t) : r.IsRead := by
  induction t generalizing skip with
  | nil => simp [decodeFrom] at member
  | cons b rest ih =>
    cases skip with
    | succ skip => exact ih member
    | zero =>
      cases front : frontChar? (b :: rest) with
      | some c =>
        rw [decodeFrom, front] at member
        rcases List.mem_cons.mp member with rfl | later
        · trivial
        · exact ih later
      | none =>
        have large : 0x80 ≤ b.toNat := by
          refine Nat.le_of_not_lt fun small => ?_
          have stray := decode_cons_of_stray front
          rw [decode_cons_of_lt small] at stray
          cases stray
        rw [decodeFrom, front] at member
        rcases List.mem_cons.mp member with rfl | later
        · exact large
        · exact ih later

theorem isRead_of_mem_decode {r : Rune} {t : Text} (member : r ∈ decode t) : r.IsRead :=
  isRead_of_mem_decodeFrom member

/-! ## What was written is read back -/

/-- A character whose encoding starts with a small byte is that byte. -/
theorem eq_ofNat_of_encode {c : Char} {b : UInt8} {bytes : Text}
    (encoded : String.utf8EncodeChar c = b :: bytes) (small : b.toNat < 0x80) :
    c = Char.ofNat b.toNat := by
  have read := decode_encode_append c []
  rw [encoded, List.cons_append, decode_cons_of_lt small] at read
  exact (Rune.char.inj (List.cons.inj read).1).symm

theorem unescape?_encode {c : Char} (notQuote : c ≠ '"') (notSlash : c ≠ '\\') (rest : Text) :
    unescape? (String.utf8EncodeChar c ++ rest) = some (.char c, rest) := by
  have front := frontChar?_encode c rest
  have left : (String.utf8EncodeChar c ++ rest).drop (String.utf8EncodeChar c).length = rest :=
    List.drop_left
  cases encoded : String.utf8EncodeChar c with
  | nil => simpa [encoded] using c.utf8Size_pos.trans_eq (String.length_utf8EncodeChar c).symm
  | cons b bytes =>
    have noQuote : b ≠ 0x22 := by
      rintro rfl
      exact notQuote (eq_ofNat_of_encode encoded (by decide))
    have noSlash : b ≠ 0x5C := by
      rintro rfl
      exact notSlash (eq_ofNat_of_encode encoded (by decide))
    rw [encoded] at front left
    rw [List.cons_append] at front left ⊢
    rw [unescape?, if_neg noQuote, if_neg noSlash, front, Option.map_some, encoded, left]

theorem unescape?_code {kind : UInt8} {width n : Nat} (noLetter : ofLetter? kind = none)
    (digits : codeWidth? kind = some width) (small : n < 16 ^ width) (rest : Text) :
    unescape? (0x5C :: kind :: Text.hex width n ++ rest) = some (ofCode width n, rest) := by
  have size := length_hex width n
  have taken : (Text.hex width n ++ rest).take width = Text.hex width n :=
    List.take_left' size
  have dropped : (Text.hex width n ++ rest).drop width = rest := List.drop_left' size
  simp only [List.cons_append, unescape?, escape?, noLetter, digits, Option.map_some, taken,
    dropped, Text.hexNumber_hex small]
  rfl

theorem unescape?_lettered : ∀ c ∈ ['"', '\\', '\x07', '\x08', '\x0C', '\n', '\r', '\t', '\x0B'],
    ∀ rest, unescape? (escaped '"' (.char c) ++ rest) = some (.char c, rest) := by
  intro c member rest
  simp only [List.mem_cons, List.not_mem_nil, or_false] at member
  rcases member with rfl | rfl | rfl | rfl | rfl | rfl | rfl | rfl | rfl
  all_goals rfl

/-- A rune of a text is read back from what stands for it between quotes, whatever follows. -/
theorem unescape?_escaped {r : Rune} (read : r.IsRead) (rest : Text) :
    unescape? (escaped '"' r ++ rest) = some (r, rest) := by
  cases r with
  | stray b =>
    have code : ofCode 2 b.toNat = .stray b := by
      rw [ofCode, if_pos ⟨rfl, read⟩]
      simp
    have back : unescape? (escaped '"' (.stray b) ++ rest) = some (ofCode 2 b.toNat, rest) :=
      unescape?_code rfl rfl b.toNat_lt rest
    rw [back, code]
  | char c =>
    by_cases lettered : c ∈ ['"', '\\', '\x07', '\x08', '\x0C', '\n', '\r', '\t', '\x0B']
    · exact unescape?_lettered c lettered rest
    simp only [List.mem_cons, List.not_mem_nil, or_false, not_or] at lettered
    obtain ⟨quote, slash, bell, back, form, feed, carriage, tab, vertical⟩ := lettered
    rw [escaped, if_neg (not_or.mpr ⟨quote, slash⟩), if_neg bell, if_neg back, if_neg form,
      if_neg feed, if_neg carriage, if_neg tab, if_neg vertical]
    split
    · exact unescape?_encode quote slash rest
    -- What is left are escapes by the code; those of two digits are below the stray bytes.
    have coded (kind : UInt8) (width : Nat) (noLetter : ofLetter? kind = none)
        (digits : codeWidth? kind = some width) (fits : c.toNat < 16 ^ width)
        (char : ¬(width = 2 ∧ 0x80 ≤ c.toNat)) :
        unescape? (0x5C :: kind :: Text.hex width c.toNat ++ rest) = some (.char c, rest) := by
      rw [unescape?_code noLetter digits fits, ofCode, if_neg char, Char.ofNat_toNat]
    split
    · next small => exact coded 0x78 2 rfl rfl (by omega) (by omega)
    split
    · next small => exact coded 0x75 4 rfl rfl (by omega) (by omega)
    · exact coded 0x55 8 rfl rfl c.val.toNat_lt (by omega)

/-- What is written for the runes of a text, with a quote behind it, determines the runes and where
    the quote is. -/
theorem flatMap_escaped_inj {rs ss : List Rune} (read : ∀ r ∈ rs, r.IsRead)
    (readToo : ∀ r ∈ ss, r.IsRead) {x y : Text}
    (same : rs.flatMap (escaped '"') ++ 0x22 :: x = ss.flatMap (escaped '"') ++ 0x22 :: y) :
    rs = ss ∧ x = y := by
  -- Both sides are read from the front, where there is a rune or the quote.
  have read_eq := congrArg unescape? same
  have closing (t : Text) : unescape? (0x22 :: t) = none := rfl
  induction rs generalizing ss with
  | nil =>
    cases ss with
    | nil => exact ⟨rfl, (List.cons.inj same).2⟩
    | cons s ss =>
      rw [List.flatMap_cons, List.append_assoc,
        unescape?_escaped (readToo s List.mem_cons_self)] at read_eq
      cases (closing x).symm.trans read_eq
  | cons r rs ih =>
    obtain ⟨first, others⟩ := List.forall_mem_cons.mp read
    rw [List.flatMap_cons, List.append_assoc, unescape?_escaped first] at read_eq
    cases ss with
    | nil => cases read_eq.trans (closing y)
    | cons s ss =>
      obtain ⟨firstToo, othersToo⟩ := List.forall_mem_cons.mp readToo
      rw [List.flatMap_cons, List.append_assoc, unescape?_escaped firstToo] at read_eq
      obtain ⟨rfl, left⟩ := Prod.mk.inj (Option.some.inj read_eq)
      obtain ⟨rfl, after⟩ := ih others othersToo left (congrArg unescape? left)
      exact ⟨rfl, after⟩

end Rune

/-- A quoted text holds one text only, and it is clear where it ends. -/
theorem Text.quoted_append_inj {s t x y : Text} (same : s.quoted ++ x = t.quoted ++ y) :
    s = t ∧ x = y := by
  have inner (t x : Text) :
      t.quoted ++ x = 0x22 :: ((Rune.decode t).flatMap (Rune.escaped '"') ++ 0x22 :: x) := by
    rw [quoted, List.append_assoc]
    rfl
  rw [inner, inner] at same
  obtain ⟨runes, rest⟩ := Rune.flatMap_escaped_inj (fun _ => Rune.isRead_of_mem_decode)
    (fun _ => Rune.isRead_of_mem_decode) (List.cons.inj same).2
  exact ⟨by rw [← Rune.encodeAll_decode s, runes, Rune.encodeAll_decode], rest⟩

/-! ## Addresses -/

/-- What divides the parts of an address. -/
def Text.colon : UInt8 := 0x3A

/-- Texts without a byte end where the byte comes for the first time. -/
theorem Text.append_cons_inj {b : UInt8} {s t x y : Text} (plain : b ∉ s) (plainToo : b ∉ t)
    (same : s ++ b :: x = t ++ b :: y) : s = t ∧ x = y := by
  have front {s : Text} (plain : b ∉ s) (x : Text) : (s ++ b :: x).takeWhile (· ≠ b) = s := by
    have others : ∀ c ∈ s, decide (c ≠ b) = true := fun c member =>
      decide_eq_true (ne_of_mem_of_not_mem member plain)
    rw [List.takeWhile_append_of_pos others, List.takeWhile_cons_of_neg (by simp), List.append_nil]
  obtain rfl : s = t := by rw [← front plain x, same, front plainToo y]
  exact ⟨rfl, (List.cons.inj (List.append_cancel_left same)).2⟩

namespace Address

/-- That the names in an address hold no colon. -/
structure Plain (a : Address) : Prop where
  module : Text.colon ∉ a.module
  scene : Text.colon ∉ a.scene

/-- The text of an address determines the file, whatever bytes it is named by, and also the module
    and the scene if the modules are named without colons. -/
theorem text_inj {a b : Address} (plain : Text.colon ∉ a.module) (plainToo : Text.colon ∉ b.module)
    (same : a.text = b.text) : a = b := by
  obtain ⟨file, module, scene⟩ := a
  obtain ⟨file', module', scene'⟩ := b
  simp only [text, List.append_assoc] at same
  obtain ⟨rfl, names⟩ := Text.quoted_append_inj (List.append_cancel_left same)
  obtain ⟨rfl, scenes⟩ := Text.append_cons_inj plain plainToo (List.append_cancel_left names)
  obtain rfl : scene = scene' := (List.cons.inj scenes).2
  rfl

theorem Plain.text_eq_iff {a b : Address} (plain : a.Plain) (plainToo : b.Plain) :
    a.text = b.text ↔ a = b :=
  ⟨text_inj plain.module plainToo.module, congrArg text⟩

-- With colons in them, names could run into each other.
example : text ⟨"f", "a::b", "c"⟩ = text ⟨"f", "a", "b::c"⟩ := by decide

end Address

end Gamebook
