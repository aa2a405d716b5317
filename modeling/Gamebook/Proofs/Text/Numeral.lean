import Gamebook.Proofs.Text.Rune
import Gamebook.Text.Blank
import Gamebook.Text.Numeral
import Mathlib.Data.List.TakeWhile
import Mathlib.Data.Nat.Digits.Defs

/-! # What numerals stand for

A numeral is an optional sign and one or more digits, and stands for an integer of whatever size.
The two readers of numerals agree with this: one reads integers of any size, the other refuses those
that do not fit in a word. Blanks around a numeral are trimmed and nothing else is.
-/

namespace Gamebook.Text

/-- The byte that a digit is written as. -/
def ofDigit (d : Fin 10) : UInt8 :=
  UInt8.ofNat (0x30 + d)

/-- How digits are written, most significant first. -/
def ofDigits (digits : List (Fin 10)) : Text :=
  digits.map ofDigit

/-- The number that digits stand for, most significant first. -/
def digitsValue (digits : List (Fin 10)) : Nat :=
  Nat.ofDigits 10 (digits.reverse.map Fin.val)

/-- That a text is a numeral for an integer. -/
inductive Denotes : Text → Int → Prop where
  | unsigned {digits : List (Fin 10)} (some : digits ≠ []) :
    Denotes (ofDigits digits) (digitsValue digits)
  | positive {digits : List (Fin 10)} (some : digits ≠ []) :
    Denotes (0x2B :: ofDigits digits) (digitsValue digits)
  | negative {digits : List (Fin 10)} (some : digits ≠ []) :
    Denotes (0x2D :: ofDigits digits) (-digitsValue digits)

/-! ## Integers of any size -/

theorem toNat_ofDigit (d : Fin 10) : (ofDigit d).toNat = 0x30 + d := by
  have small : 0x30 + d.val < 2 ^ 8 := by omega
  rw [ofDigit, UInt8.toNat_ofNat', Nat.mod_eq_of_lt small]

theorem isDecimal_iff {b : UInt8} : isDecimal b = true ↔ 0x30 ≤ b.toNat ∧ b.toNat ≤ 0x39 := by
  simp [isDecimal, UInt8.le_iff_toNat_le]

theorem isDecimal_ofDigit (d : Fin 10) : isDecimal (ofDigit d) = true := by
  rw [isDecimal_iff, toNat_ofDigit]
  omega

/-- A byte that is a digit is the writing of one. -/
theorem exists_digit {b : UInt8} (decimal : isDecimal b = true) :
    ∃ d, b = ofDigit d := by
  obtain ⟨low, high⟩ := isDecimal_iff.mp decimal
  refine ⟨⟨b.toNat - 0x30, by omega⟩, ?_⟩
  apply UInt8.toNat_inj.mp
  rw [toNat_ofDigit]
  exact (Nat.add_sub_cancel' low).symm

theorem exists_digits {t : Text} (decimal : t.all isDecimal = true) : ∃ ds, t = ofDigits ds := by
  induction t with
  | nil => exact ⟨[], rfl⟩
  | cons b rest ih =>
    rw [List.all_cons, Bool.and_eq_true] at decimal
    obtain ⟨d, rfl⟩ := exists_digit decimal.1
    obtain ⟨ds, rfl⟩ := ih decimal.2
    exact ⟨d :: ds, rfl⟩

theorem all_isDecimal (ds : List (Fin 10)) : (ofDigits ds).all isDecimal = true := by
  simp [ofDigits, isDecimal_ofDigit]

/-- The number that digits stand for after those of another number. -/
def valueAfter (value : Nat) (ds : List (Fin 10)) : Nat :=
  ds.foldl (fun value d => 10 * value + d.val) value

theorem valueAfter_zero (ds : List (Fin 10)) : valueAfter 0 ds = digitsValue ds := by
  rw [valueAfter, digitsValue, Nat.ofDigits_eq_foldr, List.foldr_map, List.foldr_reverse]
  simp [Nat.add_comm]

theorem decimalValue_ofDigits (ds : List (Fin 10)) : decimalValue (ofDigits ds) = digitsValue ds := by
  rw [← valueAfter_zero, decimalValue, ofDigits, List.foldl_map, valueAfter]
  simp [toNat_ofDigit]

theorem toNat?_eq_some_iff {t : Text} {n : Nat} :
    toNat? t = some n ↔ ∃ ds, ds ≠ [] ∧ t = ofDigits ds ∧ n = digitsValue ds := by
  unfold toNat?
  constructor
  · intro read
    split at read
    · next shape =>
      obtain ⟨ds, rfl⟩ := exists_digits shape.2
      cases read
      refine ⟨ds, ?_, rfl, decimalValue_ofDigits ds⟩
      rintro rfl
      exact shape.1 rfl
    · cases read
  · rintro ⟨ds, some, rfl, rfl⟩
    have written : ofDigits ds ≠ [] := by simpa [ofDigits] using some
    rw [if_pos ⟨written, all_isDecimal ds⟩, decimalValue_ofDigits]

/-- Digits are written without a sign. -/
theorem ofDigits_ne_sign {ds : List (Fin 10)} {b : UInt8} {rest : Text}
    (written : ofDigits ds = b :: rest) : b ≠ 0x2B ∧ b ≠ 0x2D := by
  have decimal := all_isDecimal ds
  rw [written, List.all_cons, Bool.and_eq_true] at decimal
  constructor
  · rintro rfl
    exact absurd decimal.1 (by decide)
  · rintro rfl
    exact absurd decimal.1 (by decide)

/-- A numeral taken apart into a sign and what follows it. -/
def signed : Text → Bool × Text
  | 0x2B :: digits => (false, digits)
  | 0x2D :: digits => (true, digits)
  | digits => (false, digits)

theorem signed_ofDigits (ds : List (Fin 10)) : signed (ofDigits ds) = (false, ofDigits ds) := by
  unfold signed
  split
  · next written => exact absurd rfl (ofDigits_ne_sign written).1
  · next written => exact absurd rfl (ofDigits_ne_sign written).2
  · rfl

theorem denotes_iff {t : Text} {i : Int} :
    Denotes t i ↔ ∃ ds, ds ≠ [] ∧ (signed t).2 = ofDigits ds ∧
      i = if (signed t).1 then -(digitsValue ds : Int) else digitsValue ds := by
  constructor
  · intro denotes
    cases denotes with
    | @unsigned ds some => exact ⟨ds, some, by rw [signed_ofDigits], by rw [signed_ofDigits]; rfl⟩
    | @positive ds some => exact ⟨ds, some, rfl, rfl⟩
    | @negative ds some => exact ⟨ds, some, rfl, rfl⟩
  · rintro ⟨ds, some, rest, rfl⟩
    unfold signed at rest ⊢
    split at rest
    · cases rest
      exact .positive some
    · cases rest
      exact .negative some
    · cases rest
      exact .unsigned some

theorem toInt?_eq (t : Text) :
    toInt? t = (toNat? (signed t).2).map
      fun n => if (signed t).1 then -Int.ofNat n else Int.ofNat n := by
  unfold toInt?
  split
  · rfl
  · rfl
  · next plus minus =>
    rw [signed.eq_3 t plus minus]
    rfl

/-- What is read as an integer is a numeral for it. -/
theorem toInt?_eq_some_iff {t : Text} {i : Int} : toInt? t = some i ↔ Denotes t i := by
  rw [toInt?_eq, Option.map_eq_some_iff, denotes_iff]
  constructor
  · rintro ⟨n, read, rfl⟩
    obtain ⟨ds, some, written, rfl⟩ := toNat?_eq_some_iff.mp read
    exact ⟨ds, some, written, rfl⟩
  · rintro ⟨ds, some, written, rfl⟩
    exact ⟨digitsValue ds, toNat?_eq_some_iff.mpr ⟨ds, some, written, rfl⟩, rfl⟩

/-! ## Integers in a word -/

theorem le_valueAfter (value : Nat) (ds : List (Fin 10)) : value ≤ valueAfter value ds := by
  induction ds generalizing value with
  | nil => exact Nat.le_refl value
  | cons d ds ih =>
    calc value ≤ 10 * value + d := by omega
      _ ≤ valueAfter (10 * value + d) ds := ih _

theorem digitValue?_ofDigit (d : Fin 10) : digitValue? (ofDigit d) = some d.val := by
  decide +revert

/-- Whatever counts as a digit below ten is written as one. -/
theorem isDecimal_of_digitValue? {b : UInt8} {n : Nat} (value : digitValue? b = some n)
    (small : n < 10) : isDecimal b = true := by
  have lower : lowerByte b = b ∨ 0x61 ≤ (lowerByte b).toNat := by
    unfold lowerByte
    split
    · next capital =>
      right
      have low : 0x41 ≤ b.toNat := UInt8.le_iff_toNat_le.mp capital.1
      have high : b.toNat ≤ 0x5A := UInt8.le_iff_toNat_le.mp capital.2
      rw [UInt8.toNat_add]
      change 0x61 ≤ (b.toNat + 0x20) % 2 ^ 8
      omega
    · exact .inl rfl
  simp only [digitValue?] at value
  split at value
  · next decimal =>
    rcases lower with same | letter
    · rwa [same] at decimal
    · have := (isDecimal_iff.mp decimal).2
      omega
  · split at value
    · next letter =>
      have low : 0x61 ≤ (lowerByte b).toNat := UInt8.le_iff_toNat_le.mp letter.1
      cases value
      omega
    · cases value

/-- Reading digits one by one, with a test after each, refuses exactly the numbers that are not
    below the limit: the numbers read on the way are never greater than the last one. -/
theorem readDigits_eq_ok_iff {limit value : Nat} (below : value < limit) {t : Text} {n : Nat} :
    readDigits 10 limit false value t = .ok n ↔
      ∃ ds, t = ofDigits ds ∧ n = valueAfter value ds ∧ n < limit := by
  induction t generalizing value with
  | nil =>
    constructor
    · intro read
      cases read
      exact ⟨[], rfl, rfl, below⟩
    · rintro ⟨ds, written, rfl, -⟩
      obtain rfl : ds = [] := by simpa [ofDigits] using written.symm
      rfl
  | cons b rest ih =>
    constructor
    · intro read
      rw [readDigits, if_neg (by simp)] at read
      split at read
      · cases read
      · next digit here =>
        split at read
        · cases read
        · next small =>
          split at read
          · cases read
          · next fits =>
            obtain ⟨d, rfl⟩ := exists_digit (isDecimal_of_digitValue? here (by omega))
            rw [digitValue?_ofDigit] at here
            cases here
            obtain ⟨ds, rfl, value, less⟩ := (ih (by omega)).mp read
            exact ⟨d :: ds, rfl, value, less⟩
    · rintro ⟨ds, written, rfl, less⟩
      cases ds with
      | nil => cases written
      | cons d ds =>
        obtain ⟨rfl, rfl⟩ := List.cons.inj written
        have fits : 10 * value + d.val < limit :=
          Nat.lt_of_le_of_lt (le_valueAfter _ ds) less
        rw [readDigits, if_neg (by simp), digitValue?_ofDigit]
        dsimp only
        rw [if_neg (by omega), if_neg (by omega)]
        exact (ih fits).mpr ⟨ds, rfl, rfl, less⟩

theorem parseInt_eq (width : Nat) (t : Text) :
    parseInt (some 10) width t =
      match parseNat (some 10) width (signed t).2 with
      | .error fault => .error fault
      | .ok n =>
        let i : Int := if (signed t).1 then -n else n
        if fitsWord width i then .ok i else .error .outOfRange := by
  unfold parseInt signed
  rfl

theorem parseNat_eq_ok_iff {width : Nat} {t : Text} {n : Nat} :
    parseNat (some 10) width t = .ok n ↔
      ∃ ds, ds ≠ [] ∧ t = ofDigits ds ∧ n = digitsValue ds ∧ n < 2 ^ width := by
  unfold parseNat
  split
  · next empty =>
    rw [List.isEmpty_iff] at empty
    subst empty
    constructor
    · intro read
      cases read
    · rintro ⟨ds, some, written, -⟩
      exact absurd (by simpa [ofDigits] using written.symm) some
  · next something =>
    rw [List.isEmpty_iff] at something
    dsimp only
    rw [readDigits_eq_ok_iff (show 0 < Nat.pow 2 width from Nat.two_pow_pos width)]
    simp only [valueAfter_zero]
    constructor
    · rintro ⟨ds, rfl, value, less⟩
      refine ⟨ds, ?_, rfl, value, less⟩
      rintro rfl
      exact something rfl
    · rintro ⟨ds, -, written, value, less⟩
      exact ⟨ds, written, value, less⟩

theorem fitsWord_iff {width : Nat} {i : Int} : fitsWord width i = true ↔
    i < (2 ^ (width - 1) : Nat) ∧ -(2 ^ (width - 1) : Nat) ≤ i := by
  simp [fitsWord]

/-- What is read as an integer in a word is a numeral for it, and every integer that fits is read:
    a number that is too large is refused and never taken for another one. -/
theorem parseInt_eq_ok_iff {width : Nat} (positive : 0 < width) {t : Text} {i : Int} :
    parseInt (some 10) width t = .ok i ↔ Denotes t i ∧ fitsWord width i = true := by
  have double : 2 ^ width = 2 * 2 ^ (width - 1) := by
    rw [← Nat.pow_succ', Nat.succ_eq_add_one, Nat.sub_add_cancel positive]
  rw [parseInt_eq, denotes_iff]
  constructor
  · intro read
    split at read
    · cases read
    · next n parsed =>
      obtain ⟨ds, some, written, rfl, -⟩ := parseNat_eq_ok_iff.mp parsed
      dsimp only at read
      by_cases fits : fitsWord width
          (if (signed t).1 then -(digitsValue ds : Int) else digitsValue ds) = true
      · rw [if_pos fits] at read
        obtain rfl := Except.ok.inj read
        exact ⟨⟨ds, some, written, rfl⟩, fits⟩
      · rw [if_neg fits] at read
        cases read
  · rintro ⟨⟨ds, some, written, rfl⟩, fits⟩
    have less : digitsValue ds < 2 ^ width := by
      rw [fitsWord_iff] at fits
      have room := Nat.two_pow_pos (width - 1)
      split at fits
      all_goals omega
    rw [parseNat_eq_ok_iff.mpr ⟨ds, some, written, rfl, less⟩]
    dsimp only
    rw [if_pos fits]

/-! ## Blanks around a numeral -/

/-- That a text is made up of blanks, if of anything. -/
def Blank (t : Text) : Prop :=
  ∃ rs : List Rune, (∀ r ∈ rs, r.isBlank) ∧ t = Rune.encodeAll rs

/-- Only blanks are trimmed. -/
theorem exists_trimmed (t : Text) :
    ∃ before after, Blank before ∧ Blank after ∧ t = before ++ t.trim ++ after := by
  let front := (Rune.decode t).takeWhile Rune.isBlank
  let rest := (Rune.decode t).dropWhile Rune.isBlank
  let back := rest.reverse.takeWhile Rune.isBlank
  refine ⟨Rune.encodeAll front, Rune.encodeAll back.reverse,
    ⟨front, fun r member => List.mem_takeWhile_imp member, rfl⟩,
    ⟨back.reverse, fun r member => List.mem_takeWhile_imp (List.mem_reverse.mp member), rfl⟩, ?_⟩
  have parts : Rune.decode t =
      front ++ (rest.reverse.dropWhile Rune.isBlank).reverse ++ back.reverse := by
    rw [List.append_assoc, ← List.reverse_append, List.takeWhile_append_dropWhile,
      List.reverse_reverse, List.takeWhile_append_dropWhile]
  conv_lhs => rw [← Rune.encodeAll_decode t, parts]
  rw [Rune.encodeAll_append, Rune.encodeAll_append]
  rfl

/-- The characters of a text whose bytes stand for one each. -/
theorem decode_append_of_lt {t : Text} (small : ∀ b ∈ t, b.toNat < 0x80) (rest : Text) :
    Rune.decode (t ++ rest) =
      t.map (fun b => .char (Char.ofNat b.toNat)) ++ Rune.decode rest := by
  induction t with
  | nil => rfl
  | cons b t ih =>
    obtain ⟨first, others⟩ := List.forall_mem_cons.mp small
    rw [List.cons_append, Rune.decode_cons_of_lt first, ih others, List.map_cons, List.cons_append]

/-- The bytes of numerals are characters of their own, and not blank. -/
theorem Denotes.bytes {t : Text} {i : Int} (denotes : Denotes t i) :
    t ≠ [] ∧ ∀ b ∈ t, b.toNat < 0x80 ∧ (Rune.char (Char.ofNat b.toNat)).isBlank = false := by
  have digit (d : Fin 10) : (ofDigit d).toNat < 0x80 ∧
      (Rune.char (Char.ofNat (ofDigit d).toNat)).isBlank = false := by
    decide +revert
  have digits (ds : List (Fin 10)) : ∀ b ∈ ofDigits ds,
      b.toNat < 0x80 ∧ (Rune.char (Char.ofNat b.toNat)).isBlank = false := by
    intro b member
    obtain ⟨d, -, rfl⟩ := List.mem_map.mp member
    exact digit d
  cases denotes with
  | @unsigned ds some => exact ⟨by simpa [ofDigits] using some, digits ds⟩
  | @positive ds => exact ⟨by simp, List.forall_mem_cons.mpr ⟨by decide, digits ds⟩⟩
  | @negative ds => exact ⟨by simp, List.forall_mem_cons.mpr ⟨by decide, digits ds⟩⟩

theorem dropWhile_append_of_blank {front rest : List Rune} (blank : ∀ r ∈ front, r.isBlank)
    (some : rest ≠ []) (solid : ∀ r ∈ rest, r.isBlank = false) (back : List Rune) :
    (front ++ (rest ++ back)).dropWhile Rune.isBlank = rest ++ back := by
  obtain ⟨r, rs, rfl⟩ := List.exists_cons_of_ne_nil some
  rw [List.dropWhile_append_of_pos blank, List.cons_append, List.dropWhile_cons_of_neg]
  simp [solid r List.mem_cons_self]

/-- Trimming leaves a numeral exactly if the text is a numeral with blanks around it. -/
theorem denotes_trim_iff {t : Text} {i : Int} :
    Denotes t.trim i ↔ ∃ before numeral after, Blank before ∧ Blank after ∧
      t = before ++ numeral ++ after ∧ Denotes numeral i := by
  constructor
  · intro denotes
    obtain ⟨before, after, front, back, parts⟩ := exists_trimmed t
    exact ⟨before, t.trim, after, front, back, parts, denotes⟩
  · rintro ⟨_, numeral, _, ⟨front, frontBlank, rfl⟩, ⟨back, backBlank, rfl⟩, rfl, denotes⟩
    obtain ⟨some, bytes⟩ := denotes.bytes
    have isChar {rs : List Rune} (blank : ∀ r ∈ rs, r.isBlank) : ∀ r ∈ rs, r.isChar := by
      intro r member
      cases r with
      | char c => rfl
      | stray b => exact absurd (blank _ member) (by simp [Rune.isBlank])
    let core : List Rune := numeral.map fun b => .char (Char.ofNat b.toNat)
    have solid : ∀ r ∈ core, r.isBlank = false := by
      intro r member
      obtain ⟨b, here, rfl⟩ := List.mem_map.mp member
      exact (bytes b here).2
    have decoded : Rune.decode (Rune.encodeAll front ++ numeral ++ Rune.encodeAll back) =
        front ++ (core ++ back) := by
      have ends := Rune.decode_encodeAll_append (isChar backBlank) []
      rw [List.append_nil, show Rune.decode [] = [] from rfl, List.append_nil] at ends
      rw [List.append_assoc, Rune.decode_encodeAll_append (isChar frontBlank),
        decode_append_of_lt (fun b here => (bytes b here).1), ends]
    have written : Rune.encodeAll core = numeral := by
      have whole := Rune.encodeAll_decode numeral
      have read := decode_append_of_lt (fun b here => (bytes b here).1) ([] : Text)
      rw [List.append_nil, show Rune.decode [] = [] from rfl, List.append_nil] at read
      rwa [read] at whole
    have trimmed : (Rune.encodeAll front ++ numeral ++ Rune.encodeAll back).trim = numeral := by
      have coreSome : core ≠ [] := by simpa [core] using some
      have fromBack := dropWhile_append_of_blank
        (fun r (member : r ∈ back.reverse) => backBlank r (List.mem_reverse.mp member))
        (show core.reverse ≠ [] by simpa using coreSome)
        (fun r member => solid r (List.mem_reverse.mp member)) []
      rw [List.append_nil] at fromBack
      rw [trim, decoded, dropWhile_append_of_blank frontBlank coreSome solid, List.reverse_append,
        fromBack, List.reverse_reverse, written]
    rw [trimmed]
    exact denotes

end Gamebook.Text
