import ArmTokens.Pattern.Basic
import ArmTokens.Text.Bytes

/-!
# A text and its bytes

The bytes of a text are those of its UTF-8 encoding, and a byte is put to a
class of characters by its number. Where a class is decided by ASCII characters
alone, every byte of a character answers as the character does. So a run of
bytes ends where the run of characters ends, and never inside a character.
-/

set_option autoImplicit false

namespace ArmTokens

def utf8Bytes (cs : List Char) : List UInt8 := cs.flatMap String.utf8EncodeChar

def byteRun (p : Char → Bool) (cs : List Char) : Nat :=
  ((utf8Bytes cs).takeWhile fun b => p (.ofUInt8 b)).length

/-- The byte at an offset, which may stand inside a character. -/
def byteAt? (cs : List Char) (i : Nat) : Option Char := (utf8Bytes cs)[i]?.map .ofUInt8

/-- Every byte of a character answers as the character does. -/
def Bytewise (p : Char → Bool) : Prop :=
  ∀ c, ∀ b ∈ String.utf8EncodeChar c, p (.ofUInt8 b) = p c

def AsciiOnly (p : Char → Bool) : Prop := ∀ c, p c = true → c.toNat < 128

theorem utf8_bytes_to_list (text : String) :
    utf8Bytes text.toList = text.toByteArray.data.toList := by
  rw [← String.utf8Encode_toList, List.utf8Encode, List.toList_data_toByteArray, utf8Bytes]

@[simp] theorem utf8_bytes_cons (c : Char) (cs : List Char) :
    utf8Bytes (c :: cs) = String.utf8EncodeChar c ++ utf8Bytes cs := rfl

theorem utf8_bytes_append (as bs : List Char) :
    utf8Bytes (as ++ bs) = utf8Bytes as ++ utf8Bytes bs := by
  simp [utf8Bytes]

@[simp] theorem utf8_bytes_length (cs : List Char) :
    (utf8Bytes cs).length = byteLength cs := by
  induction cs with
  | nil => rfl
  | cons c cs ih => simp [byteLength, ih]

theorem of_ascii {P : Char → Prop} (h : ∀ n < 128, P (Char.ofNat n)) {c : Char}
    (hc : c.toNat < 128) : P c := by
  have hp := h c.toNat hc
  rwa [Char.ofNat_toNat] at hp

theorem utf8_size_of_ascii {c : Char} (h : c.toNat < 128) : c.utf8Size = 1 := by
  have hv : c.val.toNat < 128 := h
  simp only [Char.utf8Size_eq_one_iff, UInt32.le_iff_toNat_le, UInt32.reduceToNat]
  omega

theorem val_of_byte (b : UInt8) : (Char.ofUInt8 b).val = b.toUInt32 := rfl

theorem byte_of_ascii {c : Char} (h : c.toNat < 128) {b : UInt8}
    (hb : b ∈ String.utf8EncodeChar c) : Char.ofUInt8 b = c := by
  rw [String.utf8EncodeChar_eq_singleton (utf8_size_of_ascii h), List.mem_singleton] at hb
  subst hb
  apply Char.ext
  apply UInt32.toNat_inj.mp
  have hv : c.val.toNat < 128 := h
  rw [val_of_byte]
  simp [-Char.toUInt8_val]
  omega

theorem byte_beyond_ascii {c : Char} (hc : 128 ≤ c.toNat) {b : UInt8}
    (hb : b ∈ String.utf8EncodeChar c) : 128 ≤ (Char.ofUInt8 b).toNat := by
  have hv : 128 ≤ c.val.toNat := hc
  have hb' : 128 ≤ b.toNat := by
    unfold String.utf8EncodeChar at hb
    simp only at hb
    split at hb
    · omega
    · split at hb
      · simp at hb
        rcases hb with rfl | rfl <;> simp <;> omega
      · split at hb
        · simp at hb
          rcases hb with rfl | rfl | rfl <;> simp <;> omega
        · simp at hb
          rcases hb with rfl | rfl | rfl | rfl <;> simp <;> omega
  rw [Char.toNat, val_of_byte]
  simpa using hb'

theorem AsciiOnly.bytewise {p : Char → Bool} (hp : AsciiOnly p) : Bytewise p := by
  intro c b hb
  by_cases hc : c.toNat < 128
  · rw [byte_of_ascii hc hb]
  · have hbyte := byte_beyond_ascii (by omega) hb
    have hout : ∀ d : Char, 128 ≤ d.toNat → p d = false := by
      intro d hd
      apply Bool.eq_false_iff.mpr
      intro h
      have := hp d h
      omega
    rw [hout _ hbyte, hout c (by omega)]

theorem Bytewise.not {p : Char → Bool} (hp : Bytewise p) : Bytewise fun c => !p c := by
  intro c b hb
  show (!p _) = !p c
  rw [hp c b hb]

theorem AsciiOnly.or {p q : Char → Bool} (hp : AsciiOnly p) (hq : AsciiOnly q) :
    AsciiOnly fun c => p c || q c := by
  intro c h
  rcases Bool.or_eq_true_iff.mp h with h | h
  · exact hp c h
  · exact hq c h

theorem ascii_only_beq {d : Char} (hd : d.toNat < 128) : AsciiOnly (· == d) := by
  intro c h
  rw [beq_iff_eq.mp h]
  exact hd

/-- A run of bytes covers the bytes of the run of characters. -/
theorem byte_run_eq {p : Char → Bool} (hp : Bytewise p) (cs : List Char) :
    byteRun p cs = byteLength (cs.take (runLength p cs)) := by
  rw [take_run_length, byteRun]
  induction cs with
  | nil => rfl
  | cons c cs ih =>
    by_cases hc : p c
    · have hall : ∀ b ∈ String.utf8EncodeChar c, p (.ofUInt8 b) = true := by
        intro b hb
        rw [hp c b hb, hc]
      rw [utf8_bytes_cons, List.takeWhile_append_of_pos hall, List.length_append, ih,
        String.length_utf8EncodeChar, List.takeWhile_cons_of_pos hc, byteLength]
    · obtain ⟨b, bs, hbs⟩ : ∃ b bs, String.utf8EncodeChar c = b :: bs := by
        apply List.exists_cons_of_length_pos
        rw [String.length_utf8EncodeChar]
        exact c.utf8Size_pos
      have hb : p (.ofUInt8 b) = p c := hp c b (by simp [hbs])
      rw [utf8_bytes_cons, hbs, List.cons_append, List.takeWhile_cons_of_neg (by rwa [hb]),
        List.takeWhile_cons_of_neg hc]
      rfl

theorem byte_at_lt {cs : List Char} {i : Nat} {b : Char} (h : byteAt? cs i = some b) :
    i < (utf8Bytes cs).length := by
  obtain ⟨_, hb, _⟩ := Option.map_eq_some_iff.mp h
  exact (List.getElem?_eq_some_iff.mp hb).1

theorem byte_at_end (cs : List Char) : byteAt? cs (byteLength cs) = none := by
  simp [byteAt?]

theorem byte_at_append (as bs : List Char) (i : Nat) :
    byteAt? (as ++ bs) (byteLength as + i) = byteAt? bs i := by
  simp [byteAt?, utf8_bytes_append, List.getElem?_append_right]

theorem byte_at_cons {c : Char} {k : Nat} (hk : k < c.utf8Size) (cs : List Char) :
    ∃ b, byteAt? (c :: cs) k = some b ∧ ∀ p, Bytewise p → p b = p c := by
  have hlen : k < (String.utf8EncodeChar c).length := by
    rwa [String.length_utf8EncodeChar]
  refine ⟨.ofUInt8 (String.utf8EncodeChar c)[k], ?_, ?_⟩
  · simp [byteAt?, List.getElem?_append_left hlen, List.getElem?_eq_getElem hlen]
  · intro p hp
    exact hp c _ (List.getElem_mem hlen)

/-! ## Classes of ASCII characters -/

theorem ascii_only_contains {ds : List Char} (h : ds.all (fun d => d.toNat < 128) = true) :
    AsciiOnly ds.contains := by
  intro c hc
  exact of_decide_eq_true (List.all_eq_true.mp h c (List.contains_iff_mem.mp hc))

theorem ascii_only_is_digit : AsciiOnly Char.isDigit := by
  intro c h
  simp only [Char.isDigit, Bool.and_eq_true, decide_eq_true_eq] at h
  exact Nat.lt_of_le_of_lt h.2 (by decide)

theorem ascii_only_is_upper : AsciiOnly Char.isUpper := by
  intro c h
  have hrange : 'A'.val ≤ c.val ∧ c.val ≤ 'Z'.val := of_decide_eq_true h
  exact Nat.lt_of_le_of_lt hrange.2 (by decide)

theorem ascii_only_is_lower : AsciiOnly Char.isLower := by
  intro c h
  have hle : c.val ≤ 'z'.val := of_decide_eq_true (Bool.and_eq_true_iff.mp h).2
  exact Nat.lt_of_le_of_lt hle (by decide)

theorem ascii_only_is_alpha : AsciiOnly Char.isAlpha := ascii_only_is_upper.or ascii_only_is_lower

theorem ascii_only_is_identifier_start : AsciiOnly isIdentifierStart :=
  (ascii_only_is_alpha.or (ascii_only_beq (by decide))).or (ascii_only_beq (by decide))

theorem ascii_only_is_identifier_part : AsciiOnly isIdentifierPart :=
  ((ascii_only_is_alpha.or ascii_only_is_digit).or (ascii_only_beq (by decide))).or
    (ascii_only_beq (by decide))

theorem ascii_only_is_blank : AsciiOnly isBlank :=
  (((ascii_only_beq (by decide)).or (ascii_only_beq (by decide))).or
    (ascii_only_beq (by decide))).or (ascii_only_beq (by decide))

theorem ascii_only_is_symbol : AsciiOnly isSymbol := ascii_only_contains (by decide)

theorem ascii_only_range {lo hi : Char} (hhi : hi.toNat < 128) :
    AsciiOnly fun c => lo ≤ c && c ≤ hi := by
  intro c h
  simp only [Bool.and_eq_true, decide_eq_true_eq] at h
  exact Nat.lt_of_le_of_lt h.2 hhi

theorem ascii_only_is_hex_digit : AsciiOnly isHexDigit :=
  (ascii_only_is_digit.or (ascii_only_range (by decide))).or (ascii_only_range (by decide))

theorem ascii_of_to_lower {c : Char} (h : c.toLower.toNat < 128) : c.toNat < 128 := by
  unfold Char.toLower at h
  split at h
  · next hu => exact Nat.lt_of_le_of_lt hu.2 (by decide)
  · exact h

theorem AsciiOnly.comp_to_lower {p : Char → Bool} (h : AsciiOnly p) :
    AsciiOnly fun c => p c.toLower := by
  intro c hc
  exact ascii_of_to_lower (h _ hc)

theorem ascii_only_is_simple_escape : AsciiOnly isSimpleEscape :=
  (ascii_only_contains (by decide)).comp_to_lower

theorem ascii_only_is_bracket : AsciiOnly isBracket := by
  apply AsciiOnly.or _ (ascii_only_beq (by decide))
  apply AsciiOnly.or _ (ascii_only_beq (by decide))
  apply AsciiOnly.or _ (ascii_only_beq (by decide))
  apply AsciiOnly.or _ (ascii_only_beq (by decide))
  exact (ascii_only_beq (by decide)).or (ascii_only_beq (by decide))

theorem ascii_only_is_delimiter : AsciiOnly isDelimiter :=
  (ascii_only_beq (by decide)).or (ascii_only_beq (by decide))

theorem ascii_only_is_line_end : AsciiOnly isLineEnd :=
  (ascii_only_beq (by decide)).or (ascii_only_beq (by decide))

theorem Radix.ascii_only_is_digit (r : Radix) : AsciiOnly r.isDigit := by
  cases r with
  | hex => exact ascii_only_is_hex_digit
  | bin => exact (ascii_only_beq (by decide)).or (ascii_only_beq (by decide))
  | dec => exact ArmTokens.ascii_only_is_digit

theorem Radix.ascii_only_is_digit_or_gap (r : Radix) : AsciiOnly r.isDigitOrGap :=
  (ascii_only_beq (by decide)).or r.ascii_only_is_digit

theorem bytewise_is_string_text : Bytewise isStringText := by
  have hquote : Bytewise (· == '"') := (ascii_only_beq (by decide)).bytewise
  have hslash : Bytewise (· == '\\') := (ascii_only_beq (by decide)).bytewise
  intro c b hb
  simp only [isStringText, bne, hquote c b hb, hslash c b hb]

end ArmTokens
