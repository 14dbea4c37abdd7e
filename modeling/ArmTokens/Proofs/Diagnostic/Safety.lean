import ArmTokens.Proofs.Diagnostic.Excerpt
import ArmTokens.Text.Unicode

/-!
# Every span can be rendered

A diagnostic fails only where the end of its span does not exist. Otherwise the
lines of both ends are lines of the text, every part of a line that it takes
lies between characters of the line, and what comes out has one row for the
headline and two for each excerpt.
-/

set_option autoImplicit false

namespace ArmTokens

def Boundary (line : List Char) (offset : Nat) : Prop :=
  ∃ as, as <+: line ∧ byteLength as = offset

end ArmTokens
