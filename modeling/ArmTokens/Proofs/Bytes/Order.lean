import Mathlib.Tactic.SplitIfs
import ArmTokens.Proofs.Bytes.Encoding

/-!
# Texts in the order of their bytes

UTF-8 keeps order: of two characters the smaller one has the smaller encoding,
and no encoding is the start of another. So texts compare by their characters as
they do by their bytes.
-/

set_option autoImplicit false

namespace ArmTokens

theorem byte_lt_iff {m n : Nat} (hm : m < 256) (hn : n < 256) :
    UInt8.ofNat m < UInt8.ofNat n ↔ m < n := UInt8.ofNat_lt_iff_lt hm hn

theorem byte_eq_iff {m n : Nat} (hm : m < 256) (hn : n < 256) :
    UInt8.ofNat m = UInt8.ofNat n ↔ m = n := by
  rw [← UInt8.toNat_inj, UInt8.toNat_ofNat_of_lt' hm, UInt8.toNat_ofNat_of_lt' hn]

theorem digit_lt {m n : Nat} (h : m < n) :
    m / 64 < n / 64 ∨ m / 64 = n / 64 ∧ m % 64 < n % 64 := by
  omega

/-- The first of four groups of bits in which two numbers differ tells their order. -/
theorem groups_lt {m n : Nat} (h : m < n) :
    m / 262144 < n / 262144 ∨
      m / 262144 = n / 262144 ∧ m / 4096 % 64 < n / 4096 % 64 ∨
      m / 4096 = n / 4096 ∧ m / 64 % 64 < n / 64 % 64 ∨
      m / 64 = n / 64 ∧ m % 64 < n % 64 := by
  have hsecond : ∀ k : Nat, k / 64 / 64 = k / 4096 := fun k => Nat.div_div_eq_div_mul k 64 64
  have hthird : ∀ k : Nat, k / 4096 / 64 = k / 262144 := fun k => Nat.div_div_eq_div_mul k 4096 64
  rcases digit_lt h with hfirst | hlast
  · rcases digit_lt hfirst with hmore | hmiddle
    · rw [hsecond, hsecond] at hmore
      rcases digit_lt hmore with htop | hhigh
      · rw [hthird, hthird] at htop
        exact .inl htop
      · rw [hthird, hthird] at hhigh
        exact .inr (.inl hhigh)
    · rw [hsecond, hsecond] at hmiddle
      exact .inr (.inr (.inl hmiddle))
  · exact .inr (.inr (.inr hlast))

theorem encode_char_lt {c d : Char} (h : c < d) (as bs : List UInt8) :
    String.utf8EncodeChar c ++ as < String.utf8EncodeChar d ++ bs := by
  have hval : c.val.toNat < d.val.toNat := h
  have hvalid : d.val.toNat < 1114112 := by
    have := d.valid
    simp only [UInt32.isValidChar, Nat.isValidChar] at this
    omega
  unfold String.utf8EncodeChar
  simp only
  generalize c.val.toNat = m at hval
  generalize d.val.toNat = n at hval hvalid
  have hgroups := groups_lt hval
  -- The lead bytes of encodings of different lengths lie in different ranges.
  split_ifs
  all_goals
    simp (disch := omega) only [List.cons_append, List.nil_append, List.cons_lt_cons_iff,
      byte_lt_iff, byte_eq_iff, Nat.mod_eq_of_lt]
    omega

theorem utf8_bytes_lt {cs ds : List Char} (h : cs < ds) : utf8Bytes cs < utf8Bytes ds := by
  induction cs generalizing ds with
  | nil =>
    cases ds with
    | nil => exact absurd h (List.lt_irrefl [])
    | cons d ds =>
      obtain ⟨b, bs, hb⟩ : ∃ b bs, String.utf8EncodeChar d = b :: bs := by
        apply List.exists_cons_of_length_pos
        rw [String.length_utf8EncodeChar]
        exact d.utf8Size_pos
      rw [utf8_bytes_cons, hb]
      exact List.nil_lt_cons b _
  | cons c cs ih =>
    cases ds with
    | nil => exact absurd h (List.not_lt_nil _)
    | cons d ds =>
      rw [utf8_bytes_cons, utf8_bytes_cons]
      rcases List.cons_lt_cons_iff.mp h with hhead | ⟨rfl, htail⟩
      · exact encode_char_lt hhead _ _
      · exact List.append_left_lt (ih htail)

theorem compare_of_lt {as bs : List UInt8} (h : as < bs) : compare as bs = .lt := by
  induction as generalizing bs with
  | nil =>
    cases bs with
    | nil => exact absurd h (List.lt_irrefl [])
    | cons b bs => rfl
  | cons a as ih =>
    cases bs with
    | nil => exact absurd h (List.not_lt_nil _)
    | cons b bs =>
      rw [List.compare_cons_cons]
      rcases List.cons_lt_cons_iff.mp h with hhead | ⟨rfl, htail⟩
      · rw [show compare a b = .lt from compareOfLessAndEq_eq_lt.mpr hhead]
        rfl
      · rw [Std.ReflOrd.compare_self, ih htail]
        rfl

/-- Comparing two texts byte by byte is comparing them character by character. -/
theorem compare_bytes (s t : String) :
    compare (utf8Bytes s.toList) (utf8Bytes t.toList) = compare s t := by
  have hlt : ∀ {s t : String}, compare s t = .lt →
      compare (utf8Bytes s.toList) (utf8Bytes t.toList) = .lt := by
    intro s t h
    exact compare_of_lt (utf8_bytes_lt (String.lt_iff.mp (compareOfLessAndEq_eq_lt.mp h)))
  cases h : compare s t with
  | lt => exact hlt h
  | eq =>
    rw [Std.LawfulEqOrd.eq_of_compare h]
    exact Std.ReflOrd.compare_self
  | gt =>
    have hswap : compare t s = .lt := by
      rw [Std.OrientedOrd.eq_swap, h]
      rfl
    rw [Std.OrientedOrd.eq_swap, hlt hswap]
    rfl

theorem eq_of_utf8_bytes {s t : String} (h : utf8Bytes s.toList = utf8Bytes t.toList) : s = t := by
  apply Std.LawfulEqOrd.eq_of_compare
  rw [← compare_bytes, h]
  exact Std.ReflOrd.compare_self

end ArmTokens
