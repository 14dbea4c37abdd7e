import ArmTokens.Text.CodeRange

/-!
# Columns on a display

How many columns a character takes is a property of the display. Of every
display it is known that an ASCII character takes one column, control characters
too, and that a text takes the columns of its characters.
-/

set_option autoImplicit false

namespace ArmTokens

class ColumnWidth where
  width : Char → Nat
  width_ascii : ∀ c, isAscii c = true → width c = 1

variable [ColumnWidth]

def displayWidth : List Char → Nat
  | [] => 0
  | c :: cs => ColumnWidth.width c + displayWidth cs

@[simp] theorem display_width_append (as bs : List Char) :
    displayWidth (as ++ bs) = displayWidth as + displayWidth bs := by
  induction as with
  | nil => simp [displayWidth]
  | cons a as ih => simp [displayWidth, ih, Nat.add_assoc]

theorem display_width_replicate {c : Char} (h : isAscii c = true) (n : Nat) :
    displayWidth (List.replicate n c) = n := by
  induction n with
  | zero => rfl
  | succ n ih =>
    rw [List.replicate_succ, displayWidth, ih, ColumnWidth.width_ascii c h, Nat.add_comm]

end ArmTokens
