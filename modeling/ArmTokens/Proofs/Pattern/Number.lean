import ArmTokens.Pattern.Number
import ArmTokens.Proofs.Pattern.Matcher

/-!
# What a literal depends on

A literal is a sign, the lead of its radix and its digits in turn, so it grows
with its last run, and it holds nothing but what these parts are made of.
-/

set_option autoImplicit false

namespace ArmTokens

namespace Radix

theorem digits_eq (r : Radix) : r.digitsLength? = byHead fun c cs =>
    if r.isDigit c then some (runLength r.isDigitOrGap cs) else none := by
  ext cs : 1
  cases cs with
  | nil => rfl
  | cons c cs =>
    rw [digitsLength?, byHead]
    split <;> rfl

/-- The letter behind the zero that announces a radix. -/
def isMark : Radix → Char → Bool
  | .hex, c => c == 'x' || c == 'X'
  | .bin, c => c == 'b' || c == 'B'
  | .dec, _ => false

theorem lead_eq {r : Radix} (hr : r ≠ .dec) : r.leadLength? = headed '0' (oneOf? r.isMark) := by
  apply eq_headed
  · cases r with
    | dec => exact absurd rfl hr
    | _ => rfl
  · intro cs
    cases cs with
    | nil => cases r <;> simp [leadLength?, oneOf?] at hr ⊢
    | cons c cs =>
      rw [oneOf?, apply_ite (Option.map (1 + ·))]
      cases r with
      | dec => exact absurd rfl hr
      | _ => rfl
  · intro c cs hc
    cases r <;> simp [leadLength?, hc] at hr ⊢

theorem lead_dec_eq : leadLength? .dec = fun _ => some 0 := by
  ext cs : 1
  rfl

def signLength? (cs : List Char) : Option Nat := some (if cs.head? = some '-' then 1 else 0)

theorem literal_eq (r : Radix) : r.literalLength? = inTurn signLength? r.unsignedLength? := by
  ext cs : 1
  unfold literalLength?
  split
  · next cs => rfl
  · next hne =>
    have hsign : signLength? cs = some 0 := by
      rw [signLength?, if_neg]
      intro h
      obtain ⟨tail, rfl⟩ := List.head?_eq_some_iff.mp h
      exact hne tail rfl
    rw [inTurn, hsign, Option.bind_some, List.drop_zero]
    simp

theorem grows_sign : Grows signLength? := by
  refine ⟨⟨?cut, ?extend⟩, ?grow⟩
  case cut =>
    intro w z n h hle
    cases w with
    | nil =>
      rw [Nat.le_zero.mp hle]
      rfl
    | cons c w => exact h
  case extend =>
    intro w n z h hlt
    cases w with
    | nil => cases hlt
    | cons c w => exact h
  case grow =>
    intro w n z h hle
    cases w with
    | nil => exact ⟨_, Nat.zero_le _, rfl⟩
    | cons c w => exact ⟨n, hle, h⟩

theorem immediate_eq (r : Radix) : r.immediateLength? = headed '#' r.literalLength? := by
  apply eq_headed
  · rfl
  · intro cs
    rfl
  · intro c cs hc
    simp [immediateLength?, hc]

theorem grows_digits (r : Radix) : Grows r.digitsLength? := by
  rw [digits_eq]
  apply Grows.by_head
  intro c
  exact Grows.guard (r.isDigit c) (Grows.run _)

theorem grows_unsigned (r : Radix) : Grows r.unsignedLength? := by
  have hlead : Grows r.leadLength? := by
    by_cases hr : r = .dec
    · rw [hr, lead_dec_eq]
      exact Grows.nothing
    · rw [lead_eq hr]
      exact (grows_one_of r.isMark).headed '0'
  exact hlead.in_turn (grows_digits r) rfl

theorem grows_literal (r : Radix) : Grows r.literalLength? := by
  rw [literal_eq]
  apply grows_sign.in_turn (grows_unsigned r)
  cases r <;> rfl

theorem grows_immediate (r : Radix) : Grows r.immediateLength? := by
  rw [immediate_eq]
  exact (grows_literal r).headed '#'

def holds (r : Radix) (c : Char) : Bool := c == '-' || r.isMark c || r.isDigitOrGap c

theorem avoids_unsigned {r : Radix} {a : Char} (hmark : r.isMark a = false)
    (hgap : r.isDigitOrGap a = false) : Avoids a r.unsignedLength? := by
  have hlead : Avoids a r.leadLength? := by
    by_cases hr : r = .dec
    · rw [hr, lead_dec_eq]
      exact Avoids.nothing
    · have hzero : a ≠ '0' := by
        rintro rfl
        cases r <;> cases hgap
      rw [lead_eq hr]
      exact Avoids.headed (avoids_one_of hmark) hzero
  have hdigits : Avoids a r.digitsLength? := by
    rw [digits_eq]
    exact Avoids.in_class (Bool.or_eq_false_iff.mp hgap).2 (Avoids.run hgap)
  exact Avoids.in_turn hlead hdigits

theorem avoids_sign {a : Char} (ha : a ≠ '-') : Avoids a signLength? := by
  intro cs n h hmem
  rw [signLength?, Option.some.injEq] at h
  by_cases hsign : cs.head? = some '-'
  · obtain ⟨tail, rfl⟩ := List.head?_eq_some_iff.mp hsign
    rw [if_pos hsign] at h
    rw [← h, List.take_succ_cons, List.take_zero, List.mem_singleton] at hmem
    exact ha hmem
  · rw [if_neg hsign] at h
    rw [← h, List.take_zero] at hmem
    cases hmem

theorem avoids_literal {r : Radix} {a : Char} (h : r.holds a = false) :
    Avoids a r.literalLength? := by
  simp only [holds, Bool.or_eq_false_iff, beq_eq_false_iff_ne] at h
  obtain ⟨⟨hminus, hmark⟩, hgap⟩ := h
  rw [literal_eq]
  exact Avoids.in_turn (avoids_sign hminus) (avoids_unsigned hmark hgap)

theorem avoids_immediate {r : Radix} {a : Char} (h : r.holds a = false) (ha : a ≠ '#') :
    Avoids a r.immediateLength? := by
  rw [immediate_eq]
  exact Avoids.headed (avoids_literal h) ha

end Radix

end ArmTokens
