import ArmTokens.Mnemonic.Basic
import ArmTokens.Token

/-!
# Lexemes

A lexeme is a piece of text with a category and no place of its own. Laid out
one after another from an offset, lexemes become tokens.
-/

set_option autoImplicit false

namespace ArmTokens

structure Lexeme where
  text : List Char
  category : Category
  deriving DecidableEq, Repr

namespace Lexeme

def token (l : Lexeme) (offset : Nat) : Token :=
  ⟨String.ofList l.text, ⟨offset, byteLength l.text⟩, l.category⟩

def layOut : Nat → List Lexeme → List Token
  | _, [] => []
  | offset, l :: ls => l.token offset :: layOut (offset + byteLength l.text) ls

def join (ls : List Lexeme) : List Char := ls.flatMap text

@[simp] theorem length_lay_out (offset : Nat) (ls : List Lexeme) :
    (layOut offset ls).length = ls.length := by
  induction ls generalizing offset with
  | nil => rfl
  | cons l ls ih => simp [layOut, ih]

theorem lay_out_append (offset : Nat) (ls ms : List Lexeme) :
    layOut offset (ls ++ ms) = layOut offset ls ++ layOut (offset + byteLength (join ls)) ms := by
  induction ls generalizing offset with
  | nil => simp [layOut, join, byteLength]
  | cons l ls ih =>
    have ih := ih (offset + byteLength l.text)
    simp only [join] at ih
    simp [layOut, join, ih, Nat.add_assoc]

end Lexeme

def wordCategory (text : List Char) : Category :=
  if isKeyword (String.ofList text) then .keyword else .identifier

/-- The runs of symbols that are an operator. No rule matches a comma as a
symbol, so that one is never looked up. -/
def operators : List (List Char) := [['+'], ['-'], ['*'], [','], ['=']]

def symbolCategory (text : List Char) : Category :=
  if operators.contains text then .operatorSymbol else .operatorOther

def bracketCategory : List Char → Category
  | '{' :: _ | '}' :: _ => .bracketCurly
  | '[' :: _ | ']' :: _ => .bracketSquare
  | _ => .bracketParenthesis

end ArmTokens
