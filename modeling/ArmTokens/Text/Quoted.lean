/-!
# Quoted texts

Two ways to write a text between double quotes. In both a quote and a backslash
are written with a backslash before them, so neither can be taken for the end of
the text or the start of an escape. Which other characters are written by
themselves in the plain form is left to a class of printed characters.
-/

set_option autoImplicit false

namespace ArmTokens

class PrintClass where
  printable : Char → Bool

namespace Quoted

/-- What cannot be seen is written as its code point, in as few hexadecimal
digits as it takes. -/
def escapePlain [PrintClass] (c : Char) : List Char :=
  match c with
  | '\x00' => ['\\', '0']
  | '\t' => ['\\', 't']
  | '\r' => ['\\', 'r']
  | '\n' => ['\\', 'n']
  | '"' => ['\\', '"']
  | '\\' => ['\\', '\\']
  | c =>
    if PrintClass.printable c then [c]
    else ['\\', 'u', '{'] ++ Nat.toDigits 16 c.toNat ++ ['}']

/-- Control characters without a letter of their own are written in four
hexadecimal digits. Everything from the blank on is written as it is. -/
def escapeJson (c : Char) : List Char :=
  match c with
  | '"' => ['\\', '"']
  | '\\' => ['\\', '\\']
  | '\x08' => ['\\', 'b']
  | '\x0c' => ['\\', 'f']
  | '\n' => ['\\', 'n']
  | '\r' => ['\\', 'r']
  | '\t' => ['\\', 't']
  | c =>
    if c < ' ' then
      ['\\', 'u', '0', '0', Nat.digitChar (c.toNat / 16), Nat.digitChar (c.toNat % 16)]
    else [c]

def quote (escape : Char → List Char) (text : List Char) : List Char :=
  ['"'] ++ text.flatMap escape ++ ['"']

def plain [PrintClass] (text : List Char) : List Char := quote escapePlain text

def json (text : List Char) : List Char := quote escapeJson text

end Quoted

end ArmTokens
