/-!
# Lexical context

What a character means depends on the mode it is read in. The modes entered
and not yet left form a stack whose bottom is always `root`.
-/

set_option autoImplicit false

namespace ArmTokens

inductive Mode where
  | root
  | string
  /-- Only lends its rules to `root`. -/
  | whitespace
  deriving DecidableEq, Repr, Ord

/-- The modes above the bottom, innermost first. -/
structure ModeStack where
  above : List Mode
  deriving DecidableEq, Repr

namespace ModeStack

def base : ModeStack := ⟨[]⟩

def push (s : ModeStack) (m : Mode) : ModeStack := ⟨m :: s.above⟩

def current (s : ModeStack) : Mode := s.above.head?.getD .root

def depth (s : ModeStack) : Nat := s.above.length + 1

/-- Leaves the innermost mode. The bottom cannot be left. -/
def pop (s : ModeStack) : Option Mode × ModeStack := (s.above.head?, ⟨s.above.tail⟩)

@[simp] theorem current_base : base.current = .root := rfl

@[simp] theorem current_push (s : ModeStack) (m : Mode) : (s.push m).current = m := rfl

end ModeStack

end ArmTokens
