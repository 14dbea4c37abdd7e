import ArmTokens.Pattern.CharClass
import ArmTokens.Pattern.Run

/-!
# Numeric literals

A literal is an optional `-`, the lead of its radix, a digit, and then digits
and underscores. An immediate is a literal after `#`.
-/

set_option autoImplicit false

namespace ArmTokens

inductive Radix where
  | hex
  | bin
  | dec
  deriving DecidableEq, Repr

namespace Radix

def isDigit : Radix → Char → Bool
  | .hex, c => isHexDigit c
  | .bin, c => c == '0' || c == '1'
  | .dec, c => c.isDigit

def isDigitOrGap (r : Radix) (c : Char) : Bool := c == '_' || r.isDigit c

def leadLength? : Radix → List Char → Option Nat
  | .hex, '0' :: m :: _ => if m == 'x' || m == 'X' then some 2 else none
  | .bin, '0' :: m :: _ => if m == 'b' || m == 'B' then some 2 else none
  | .dec, _ => some 0
  | _, _ => none

/-- Digits that may be parted by underscores, the first of them a digit. -/
def digitsLength? (r : Radix) : List Char → Option Nat
  | [] => none
  | c :: cs => if r.isDigit c then some (1 + runLength r.isDigitOrGap cs) else none

def unsignedLength? (r : Radix) (cs : List Char) : Option Nat :=
  (r.leadLength? cs).bind fun lead => (r.digitsLength? (cs.drop lead)).map (lead + ·)

def literalLength? (r : Radix) : List Char → Option Nat
  | '-' :: cs => (r.unsignedLength? cs).map (1 + ·)
  | cs => r.unsignedLength? cs

def immediateLength? (r : Radix) : List Char → Option Nat
  | '#' :: cs => (r.literalLength? cs).map (1 + ·)
  | _ => none

theorem digits_length_bounds {r : Radix} {cs : List Char} {n : Nat}
    (h : r.digitsLength? cs = some n) : 0 < n ∧ n ≤ cs.length := by
  cases cs with
  | nil => simp [digitsLength?] at h
  | cons c cs =>
    simp only [digitsLength?, Option.ite_none_right_eq_some, Option.some.injEq] at h
    have hr := run_length_le r.isDigitOrGap cs
    simp only [List.length_cons]
    omega

theorem unsigned_length_bounds {r : Radix} {cs : List Char} {n : Nat}
    (h : r.unsignedLength? cs = some n) : 0 < n ∧ n ≤ cs.length := by
  obtain ⟨lead, _, h⟩ := Option.bind_eq_some_iff.mp h
  obtain ⟨m, hm, rfl⟩ := Option.map_eq_some_iff.mp h
  have hb := digits_length_bounds hm
  simp only [List.length_drop] at hb
  omega

theorem literal_length_bounds {r : Radix} {cs : List Char} {n : Nat}
    (h : r.literalLength? cs = some n) : 0 < n ∧ n ≤ cs.length := by
  unfold literalLength? at h
  split at h
  · obtain ⟨m, hm, rfl⟩ := Option.map_eq_some_iff.mp h
    have hb := unsigned_length_bounds hm
    simp only [List.length_cons]
    omega
  · exact unsigned_length_bounds h

theorem immediate_length_bounds {r : Radix} {cs : List Char} {n : Nat}
    (h : r.immediateLength? cs = some n) : 0 < n ∧ n ≤ cs.length := by
  unfold immediateLength? at h
  split at h
  · obtain ⟨m, hm, rfl⟩ := Option.map_eq_some_iff.mp h
    have hb := literal_length_bounds hm
    simp only [List.length_cons]
    omega
  · simp at h

end Radix

end ArmTokens
