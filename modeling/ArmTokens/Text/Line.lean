/-!
# Lines

A line ends before each `\n` and at the end of the text. What is shown of a line
leaves out one `\r` at its end.
-/

set_option autoImplicit false

namespace ArmTokens

def lines : List Char → List (List Char)
  | [] => [[]]
  | c :: cs => if c = '\n' then [] :: lines cs else (lines cs).modifyHead (c :: ·)

def withoutReturn (line : List Char) : List Char :=
  if line.getLast? = some '\r' then line.dropLast else line

theorem lines_ne_nil (cs : List Char) : lines cs ≠ [] := by
  induction cs with
  | nil => simp [lines]
  | cons c cs ih =>
    unfold lines
    split
    · simp
    · cases h : lines cs with
      | nil => exact absurd h ih
      | cons l ls => simp

end ArmTokens
