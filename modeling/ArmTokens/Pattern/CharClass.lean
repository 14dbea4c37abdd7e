/-!
# Classes of characters

Every class is decided by ASCII characters alone: a character beyond ASCII is in
a class only where the class is given by what it leaves out.
-/

set_option autoImplicit false

namespace ArmTokens

def isIdentifierStart (c : Char) : Bool := c.isAlpha || c == '_' || c == '$'

def isIdentifierPart (c : Char) : Bool := c.isAlphanum || c == '_' || c == '$'

def isBlank (c : Char) : Bool := c == ' ' || c == '\t' || c == '\r' || c == '\n'

def isLineEnd (c : Char) : Bool := c == '\n' || c == '\r'

theorem is_line_end_iff {c : Char} : isLineEnd c = true ↔ c = '\n' ∨ c = '\r' := by
  simp [isLineEnd]

def isBracket (c : Char) : Bool :=
  c == '{' || c == '}' || c == '(' || c == ')' || c == '[' || c == ']'

def isSymbol (c : Char) : Bool :=
  ['=', '!', '~', '?', ':', '&', '|', '+', '-', '*', '/', '^', '%'].contains c

def isDelimiter (c : Char) : Bool := c == ',' || c == '.'

def isHexDigit (c : Char) : Bool :=
  c.isDigit || ('a' ≤ c && c ≤ 'f') || ('A' ≤ c && c ≤ 'F')

end ArmTokens
