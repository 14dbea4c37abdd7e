import ArmTokens.Text.Bytes
import ArmTokens.Text.Line

/-!
# Lines and columns

A position is a line, counted from one, and a number of bytes on it. An offset
inside a character has the position of the character's end, and an offset past
the text that of the end of the text.
-/

set_option autoImplicit false

namespace ArmTokens

structure Position where
  line : Nat
  column : Nat
  deriving DecidableEq, Repr, Ord

namespace Position

def start : Position := ⟨1, 0⟩

def after (p : Position) (c : Char) : Position :=
  if c = '\n' then ⟨p.line + 1, 0⟩ else ⟨p.line, p.column + c.utf8Size⟩

/-- Walks on until no byte of the distance is left. -/
def walk (p : Position) : List Char → Nat → Position
  | [], _ => p
  | c :: cs, distance => if distance = 0 then p else (p.after c).walk cs (distance - c.utf8Size)

def ofOffset (text : List Char) (offset : Nat) : Position := start.walk text offset

@[simp] theorem walk_zero (p : Position) (cs : List Char) : p.walk cs 0 = p := by
  cases cs <;> rfl

theorem walk_append (p : Position) (as bs : List Char) (distance : Nat) :
    p.walk (as ++ bs) (byteLength as + distance) = (as.foldl after p).walk bs distance := by
  induction as generalizing p with
  | nil => simp [byteLength]
  | cons a as ih =>
    have hpos := a.utf8Size_pos
    have hne : a.utf8Size + byteLength as + distance ≠ 0 := by omega
    have hsub : a.utf8Size + byteLength as + distance - a.utf8Size = byteLength as + distance := by
      omega
    simp only [List.cons_append, byteLength, walk, hne, hsub, if_false, ih, List.foldl_cons]

end Position

end ArmTokens
