import ArmTokens.Category
import ArmTokens.Span

/-!
# Tokens

A token is a piece of source text with the span it covers and its category.
Tokens are ordered by text, then span, then category.
-/

set_option autoImplicit false

namespace ArmTokens

structure Token where
  text : String
  span : Span
  category : Category
  deriving DecidableEq, Repr, Ord

namespace Token

def start (t : Token) : Nat := t.span.offset

def stop (t : Token) : Except RangeError Nat := t.span.stop

end Token

end ArmTokens
