import Gamebook.Position
import Mathlib.Data.List.Induction

/-! # Runes and positions

Writing the runes of a text gives the text back, and characters that are written are read back. A
text can be divided in front of any byte below `0x80`: such a byte belongs to no other rune. The
position past some runes is given by how many line feeds there are among them and how many runes
follow the last one.
-/

namespace Gamebook

namespace Rune

@[simp] theorem encodeAll_nil : encodeAll [] = [] :=
  rfl

@[simp] theorem encodeAll_cons (r : Rune) (rs : List Rune) :
    encodeAll (r :: rs) = r.encode ++ encodeAll rs :=
  rfl

@[simp] theorem encodeAll_append (rs rest : List Rune) :
    encodeAll (rs ++ rest) = encodeAll rs ++ encodeAll rest :=
  List.flatMap_append

theorem frontChar?_append {t : Text} {c : Char} (here : frontChar? t = some c) :
    String.utf8EncodeChar c ++ t.drop (String.utf8EncodeChar c).length = t := by
  unfold frontChar? at here
  dsimp only at here
  split at here
  · next starts =>
    cases here
    exact List.prefix_iff_eq_append.mp (List.isPrefixOf_iff_prefix.mp starts)
  · cases here

theorem encodeAll_decodeFrom (skip : Nat) (t : Text) :
    encodeAll (decodeFrom skip t) = t.drop skip := by
  induction t generalizing skip with
  | nil => simp [decodeFrom]
  | cons b rest ih =>
    cases skip with
    | succ skip => exact ih skip
    | zero =>
      unfold decodeFrom
      split
      · next c here =>
        have whole := frontChar?_append here
        -- The first byte is one of those that encode the character.
        obtain ⟨n, size⟩ : ∃ n, (String.utf8EncodeChar c).length = n + 1 :=
          Nat.exists_eq_add_one.mpr (by simpa using c.utf8Size_pos)
        rw [size, List.drop_succ_cons] at whole
        rw [encodeAll_cons, ih, size, Nat.add_sub_cancel, encode, whole, List.drop_zero]
      · rw [encodeAll_cons, ih]
        rfl

/-- Nothing is lost by reading a text as runes. -/
theorem encodeAll_decode (t : Text) : encodeAll (decode t) = t :=
  encodeAll_decodeFrom 0 t

/-- Whether a rune is a character and no stray byte. -/
def isChar : Rune → Bool
  | .char _ => true
  | .stray _ => false

theorem frontCode_encode (c : Char) (t : Text) :
    frontCode (String.utf8EncodeChar c ++ t) = c.toNat := by
  have small : c.toNat < 0x110000 := by
    rcases c.valid with low | ⟨-, high⟩
    · exact Nat.lt_trans low (by decide)
    · exact high
  unfold frontCode String.utf8EncodeChar
  simp only [Char.toNat_val]
  split_ifs
  all_goals
    simp only [List.cons_append, List.nil_append, List.getD_cons_zero, List.getD_cons_succ,
      UInt8.toNat_ofNat'] at *
    omega

theorem frontChar?_encode (c : Char) (t : Text) :
    frontChar? (String.utf8EncodeChar c ++ t) = some c := by
  simp [frontChar?, frontCode_encode, List.isPrefixOf_iff_prefix]

theorem decodeFrom_eq_drop (skip : Nat) (t : Text) : decodeFrom skip t = decode (t.drop skip) := by
  induction t generalizing skip with
  | nil => simp [decode, decodeFrom]
  | cons b rest ih =>
    cases skip with
    | zero => rfl
    | succ skip => exact ih skip

theorem decode_encode_append (c : Char) (t : Text) :
    decode (String.utf8EncodeChar c ++ t) = .char c :: decode t := by
  obtain ⟨b, bytes, encoded⟩ : ∃ b bytes, String.utf8EncodeChar c = b :: bytes :=
    List.exists_cons_of_length_pos (by simpa using c.utf8Size_pos)
  have front := frontChar?_encode c t
  rw [encoded, List.cons_append] at front
  rw [encoded, List.cons_append, decode, decodeFrom, front]
  simp [decodeFrom_eq_drop, encoded]

/-- Characters that are written at the front of a text are read back there. -/
theorem decode_encodeAll_append {rs : List Rune} (chars : ∀ r ∈ rs, r.isChar) (t : Text) :
    decode (encodeAll rs ++ t) = rs ++ decode t := by
  induction rs with
  | nil => rfl
  | cons r rs ih =>
    obtain ⟨first, others⟩ := List.forall_mem_cons.mp chars
    cases r with
    | stray b => simp [isChar] at first
    | char c =>
      rw [encodeAll_cons, List.append_assoc, encode, decode_encode_append, ih others,
        List.cons_append]

theorem encodeAll_chars (s : String) : encodeAll (s.toList.map .char) = Text.ofString s := by
  rw [encodeAll, List.flatMap_map]
  rfl

theorem decode_ofString_append (s : String) (t : Text) :
    decode (Text.ofString s ++ t) = s.toList.map .char ++ decode t := by
  rw [← encodeAll_chars]
  apply decode_encodeAll_append
  intro r member
  obtain ⟨c, -, rfl⟩ := List.mem_map.mp member
  rfl

theorem decode_cons_of_lt {b : UInt8} (small : b.toNat < 0x80) (t : Text) :
    decode (b :: t) = .char (Char.ofNat b.toNat) :: decode t := by
  have codes : ∀ n < 0x80, (Char.ofNat n).toNat = n := by decide
  have encoded : String.utf8EncodeChar (.ofNat b.toNat) = [b] := by
    simp [String.utf8EncodeChar, codes _ small, Nat.le_of_lt_succ small]
  rw [← decode_encode_append, encoded, List.singleton_append]

theorem frontChar?_eq_some_iff {t : Text} {c : Char} :
    frontChar? t = some c ↔ String.utf8EncodeChar c <+: t := by
  constructor
  · intro here
    exact ⟨_, frontChar?_append here⟩
  · rintro ⟨rest, rfl⟩
    exact frontChar?_encode c rest

/-- Only the first byte of a character can be small. -/
theorem le_of_mem_tail_encode {c : Char} {b : UInt8}
    (later : b ∈ (String.utf8EncodeChar c).tail) : 0x80 ≤ b.toNat := by
  have large (n : Nat) : 0x80 ≤ (UInt8.ofNat (n % 64 + 128)).toNat := by
    rw [UInt8.toNat_ofNat']
    omega
  unfold String.utf8EncodeChar at later
  simp only at later
  split_ifs at later
  all_goals
    simp only [List.tail_cons, List.mem_cons, List.not_mem_nil, or_false] at later
  · rw [later]
    exact large _
  · rcases later with rfl | rfl <;> exact large _
  · rcases later with rfl | rfl | rfl <;> exact large _

theorem decode_cons_of_stray {b : UInt8} {t : Text} (stray : frontChar? (b :: t) = none) :
    decode (b :: t) = .stray b :: decode t := by
  rw [decode, decodeFrom, stray]
  rfl

/-- No character starts in front of a small byte and goes on with it. -/
theorem frontChar?_append_cons_of_lt {t : Text} {b : UInt8} (small : b.toNat < 0x80) (rest : Text)
    (stray : frontChar? t = none) (more : t ≠ []) : frontChar? (t ++ b :: rest) = none := by
  apply Option.eq_none_iff_forall_not_mem.mpr
  intro c here
  have encoded := frontChar?_eq_some_iff.mp here
  by_cases short : (String.utf8EncodeChar c).length ≤ t.length
  · have within := List.prefix_of_prefix_length_le encoded (List.prefix_append ..) short
    rw [frontChar?_eq_some_iff.mpr within] at stray
    cases stray
  · have longer : t ++ [b] <+: String.utf8EncodeChar c := by
      have front : t ++ [b] <+: t ++ b :: rest := ⟨rest, by simp⟩
      apply List.prefix_of_prefix_length_le front encoded
      rw [List.length_append, List.length_singleton]
      omega
    obtain ⟨others, whole⟩ := longer
    have later : b ∈ (String.utf8EncodeChar c).tail := by
      rw [← whole, List.append_assoc, List.tail_append_of_ne_nil more]
      simp
    have large := le_of_mem_tail_encode later
    omega

/-- A small byte starts a rune of its own, whatever stands in front of it. -/
theorem decode_append_cons_of_lt (t : Text) {b : UInt8} (small : b.toNat < 0x80) (rest : Text) :
    decode (t ++ b :: rest) = decode t ++ decode (b :: rest) := by
  match t with
  | [] => rfl
  | first :: others =>
    cases front : frontChar? (first :: others) with
    | none =>
      have ahead := frontChar?_append_cons_of_lt small rest front (List.cons_ne_nil _ _)
      rw [List.cons_append] at ahead
      rw [decode_cons_of_stray front, List.cons_append, decode_cons_of_stray ahead,
        decode_append_cons_of_lt others small rest, List.cons_append]
    | some c =>
      obtain ⟨left, whole⟩ := frontChar?_eq_some_iff.mp front
      have shorter : left.length < (first :: others).length := by
        have := c.utf8Size_pos
        rw [← whole, List.length_append, String.length_utf8EncodeChar]
        omega
      rw [← whole, List.append_assoc, decode_encode_append, decode_encode_append,
        decode_append_cons_of_lt left small rest, List.cons_append]
termination_by t.length
decreasing_by
  · exact Nat.lt_succ_self _
  · exact shorter

end Rune

namespace Pos

/-- The position past runes that stand at the start of a source. -/
def past (rs : List Rune) : Pos :=
  ⟨1 + rs.count (.char '\n'), 1 + (rs.reverse.takeWhile (· ≠ .char '\n')).length⟩

theorem past_snoc (rs : List Rune) (r : Rune) : past (rs ++ [r]) = (past rs).after r := by
  unfold after past
  split
  · next feed => simp [feed, Int.add_assoc]
  · next more => simp [more, Int.add_assoc]

theorem afterAll_start (rs : List Rune) : start.afterAll rs = past rs := by
  induction rs using List.reverseRecOn with
  | nil => rfl
  | append_singleton rs r ih =>
    rw [past_snoc, ← ih]
    simp [afterAll]

end Pos

end Gamebook
