import ArmTokens.Pattern.Number
import ArmTokens.Pattern.Quoted

/-!
# Patterns

A pattern looks at the start of a text and tells how many characters it takes,
as many as it can. A pattern that matches takes at least one character and
never more than there are.
-/

set_option autoImplicit false

namespace ArmTokens

inductive Pattern where
  | identifier
  | whitespace
  | bracket
  | symbols
  | immediate (radix : Radix)
  | bare (radix : Radix)
  | delimiter
  | openString
  | doubleQuote
  | charLiteral
  | charEscape
  | singleQuote
  | escape
  | anyEscape
  | comment
  | expectPass
  | expectFail
  | stringText
  deriving DecidableEq, Repr

namespace Pattern

def identifierLength? : List Char → Option Nat
  | [] => none
  | c :: cs => if isIdentifierStart c then some (1 + runLength isIdentifierPart cs) else none

def lineLength? (leader cs : List Char) : Option Nat :=
  if leader.isPrefixOf cs then
    some (leader.length + runLength (fun c => !isLineEnd c) (cs.drop leader.length))
  else none

def matchLength? : Pattern → List Char → Option Nat
  | .identifier, cs => identifierLength? cs
  | .whitespace, cs => runLength? isBlank cs
  | .bracket, cs => oneOf? isBracket cs
  | .symbols, cs => runLength? isSymbol cs
  | .immediate r, cs => r.immediateLength? cs
  | .bare r, cs => r.literalLength? cs
  | .delimiter, cs => oneOf? isDelimiter cs
  | .openString, cs => openStringLength? cs
  | .doubleQuote, cs => oneOf? (· == '"') cs
  | .charLiteral, cs => charLiteralLength? cs
  | .charEscape, cs => charEscapeLength? cs
  | .singleQuote, cs => oneOf? (· == '\'') cs
  | .escape, cs => escapeLength? cs
  | .anyEscape, cs => anyEscapeLength? cs
  | .comment, cs => lineLength? [';'] cs
  | .expectPass, cs => lineLength? ['>', '>', ';'] cs
  | .expectFail, cs => lineLength? ['>', '>', '-'] cs
  | .stringText, cs => runLength? isStringText cs

theorem identifier_length_bounds {cs : List Char} {n : Nat} (h : identifierLength? cs = some n) :
    0 < n ∧ n ≤ cs.length := by
  cases cs with
  | nil => simp [identifierLength?] at h
  | cons c cs =>
    simp only [identifierLength?, Option.ite_none_right_eq_some, Option.some.injEq] at h
    have hr := run_length_le isIdentifierPart cs
    simp only [List.length_cons]
    omega

theorem line_length_bounds {leader cs : List Char} {n : Nat} (hl : leader ≠ [])
    (h : lineLength? leader cs = some n) : 0 < n ∧ n ≤ cs.length := by
  simp only [lineLength?, Option.ite_none_right_eq_some, Option.some.injEq] at h
  have hle := (List.isPrefixOf_iff_prefix.mp h.1).length_le
  have hr := run_length_le (fun c => !isLineEnd c) (cs.drop leader.length)
  have hpos := List.length_pos_iff.mpr hl
  simp only [List.length_drop] at hr
  omega

theorem match_length_bounds {p : Pattern} {cs : List Char} {n : Nat}
    (h : p.matchLength? cs = some n) : 0 < n ∧ n ≤ cs.length := by
  cases p with
  | identifier => exact identifier_length_bounds h
  | whitespace => exact run_length_bounds h
  | bracket => exact one_of_bounds h
  | symbols => exact run_length_bounds h
  | immediate r => exact Radix.immediate_length_bounds h
  | bare r => exact Radix.literal_length_bounds h
  | delimiter => exact one_of_bounds h
  | openString => exact open_string_length_bounds h
  | doubleQuote => exact one_of_bounds h
  | charLiteral => exact char_literal_length_bounds h
  | charEscape =>
    have hb := char_escape_length_bounds h
    omega
  | singleQuote => exact one_of_bounds h
  | escape =>
    have hb := escape_length_bounds h
    omega
  | anyEscape => exact any_escape_length_bounds h
  | comment => exact line_length_bounds (by simp) h
  | expectPass => exact line_length_bounds (by simp) h
  | expectFail => exact line_length_bounds (by simp) h
  | stringText => exact run_length_bounds h

end Pattern

end ArmTokens
