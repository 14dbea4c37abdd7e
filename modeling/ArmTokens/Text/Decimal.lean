/-!
# Numbers in decimal

A number is written in as few digits as it takes, and different numbers are
written differently.
-/

set_option autoImplicit false

namespace ArmTokens

def decimal (n : Nat) : List Char := Nat.toDigits 10 n

theorem digit_of_mem_decimal {n : Nat} {c : Char} (h : c ∈ decimal n) : c.isDigit = true :=
  Nat.isDigit_of_mem_toDigits (by decide) (by decide) h

theorem no_feed_of_decimal (n : Nat) : '\n' ∉ decimal n := by
  intro h
  cases digit_of_mem_decimal h

theorem decimal_injective {m n : Nat} (h : decimal m = decimal n) : m = n := by
  have hm := Nat.ofDigitChars_toDigits (b := 10) (n := m) (by decide) (by decide)
  have hn := Nat.ofDigitChars_toDigits (b := 10) (n := n) (by decide) (by decide)
  rw [← hm, ← hn]
  exact congrArg (fun ds => Nat.ofDigitChars 10 ds 0) h

end ArmTokens
