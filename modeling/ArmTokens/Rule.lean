import ArmTokens.Lexeme
import ArmTokens.Mode
import ArmTokens.Pattern.Basic

/-!
# Rules

Each mode has an ordered list of rules, and the first rule whose pattern matches
decides. The list for `root` holds the rules for blanks in its midst.
-/

set_option autoImplicit false

namespace ArmTokens

inductive Action where
  | emit (category : Category)
  | word
  | symbols
  | bracket
  /-- A quote, what it encloses, and the other quote. -/
  | quoted (quote body : Category)
  | enter (category : Category) (mode : Mode)
  | leave (category : Category)
  deriving DecidableEq, Repr

namespace Action

def lexemes : Action → List Char → List Lexeme
  | .emit c, text => [⟨text, c⟩]
  | .word, text => [⟨text, wordCategory text⟩]
  | .symbols, text => [⟨text, symbolCategory text⟩]
  | .bracket, text => [⟨text, bracketCategory text⟩]
  | .quoted quote body, text =>
    let inner := text.tail
    [⟨text.take 1, quote⟩, ⟨inner.dropLast, body⟩,
      ⟨inner.drop (inner.length - 1), quote⟩]
  | .enter c _, text => [⟨text, c⟩]
  | .leave c, text => [⟨text, c⟩]

def modes : Action → ModeStack → ModeStack
  | .enter _ m, s => s.push m
  | .leave _, s => s.pop.2
  | _, s => s

theorem length_lexemes_pos (a : Action) (text : List Char) : 0 < (a.lexemes text).length := by
  cases a <;> simp [lexemes]

theorem length_lexemes_le (a : Action) (text : List Char) : (a.lexemes text).length ≤ 3 := by
  cases a <;> simp [lexemes]

theorem join_lexemes (a : Action) (text : List Char) : Lexeme.join (a.lexemes text) = text := by
  cases a with
  | quoted quote body =>
    cases text with
    | nil => rfl
    | cons c inner =>
      have h : inner.dropLast ++ inner.drop (inner.length - 1) = inner := by
        rw [List.dropLast_eq_take, List.take_append_drop]
      simp [lexemes, Lexeme.join, h]
  | _ => simp [lexemes, Lexeme.join]

end Action

structure Rule where
  pattern : Pattern
  action : Action
  deriving DecidableEq, Repr

def whitespaceRules : List Rule :=
  [⟨.whitespace, .emit .whitespace⟩]

def rootRules : List Rule :=
  [⟨.identifier, .word⟩] ++ whitespaceRules ++
  [⟨.bracket, .bracket⟩,
   ⟨.symbols, .symbols⟩,
   ⟨.immediate .hex, .emit .immediateHex⟩,
   ⟨.immediate .bin, .emit .immediateBin⟩,
   ⟨.immediate .dec, .emit .immediateDec⟩,
   ⟨.bare .hex, .emit .bareHex⟩,
   ⟨.bare .bin, .emit .bareBin⟩,
   ⟨.bare .dec, .emit .bareDec⟩,
   ⟨.delimiter, .emit .delimiter⟩,
   ⟨.openString, .emit .stringInvalid⟩,
   ⟨.doubleQuote, .enter .stringQuoteOpen .string⟩,
   ⟨.charLiteral, .emit .char⟩,
   ⟨.charEscape, .quoted .char .stringEscape⟩,
   ⟨.singleQuote, .emit .charInvalid⟩,
   ⟨.anyEscape, .emit .stringEscapeInvalid⟩,
   ⟨.comment, .emit .comment⟩,
   ⟨.expectPass, .emit .commentExpectPass⟩,
   ⟨.expectFail, .emit .commentExpectFail⟩]

def stringRules : List Rule :=
  [⟨.stringText, .emit .string⟩,
   ⟨.escape, .emit .stringEscape⟩,
   ⟨.anyEscape, .emit .stringEscapeInvalid⟩,
   ⟨.doubleQuote, .leave .stringQuoteClose⟩]

def Mode.rules : Mode → List Rule
  | .root => rootRules
  | .string => stringRules
  | .whitespace => whitespaceRules

structure Match where
  length : Nat
  action : Action
  deriving DecidableEq, Repr

def Rule.match? (r : Rule) (cs : List Char) : Option Match :=
  (r.pattern.matchLength? cs).map fun n => ⟨n, r.action⟩

def firstMatch? (rules : List Rule) (cs : List Char) : Option Match :=
  rules.findSome? fun r => r.match? cs

theorem first_match_bounds {rules : List Rule} {cs : List Char} {m : Match}
    (h : firstMatch? rules cs = some m) : 0 < m.length ∧ m.length ≤ cs.length := by
  obtain ⟨r, _, hr⟩ := List.exists_of_findSome?_eq_some h
  obtain ⟨n, hn, rfl⟩ := Option.map_eq_some_iff.mp hr
  exact Pattern.match_length_bounds hn

/-- Where no rule matches, one character is taken as invalid. -/
def matchAt (mode : Mode) (cs : List Char) : Match :=
  (firstMatch? mode.rules cs).getD ⟨1, .emit .invalid⟩

theorem match_at_pos (mode : Mode) (cs : List Char) : 0 < (matchAt mode cs).length := by
  unfold matchAt
  cases h : firstMatch? mode.rules cs with
  | none => simp
  | some m => exact (first_match_bounds h).1

theorem match_at_le (mode : Mode) {cs : List Char} (hcs : cs ≠ []) :
    (matchAt mode cs).length ≤ cs.length := by
  unfold matchAt
  cases h : firstMatch? mode.rules cs with
  | none => exact List.length_pos_iff.mpr hcs
  | some m => exact (first_match_bounds h).2

end ArmTokens
