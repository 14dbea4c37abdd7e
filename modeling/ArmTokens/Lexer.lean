import ArmTokens.Rule

/-!
# From text to tokens

The lexer goes through a text once. Where no token is waiting it matches one
rule of the current mode and lets the tokens of that match wait; where no rule
matches it takes one character as `invalid`. So every text has tokens to its
end, and the tokens put together give back the text.
-/

set_option autoImplicit false

namespace ArmTokens

structure Lexer where
  rest : List Char
  position : Nat
  modes : ModeStack
  /-- Tokens of the last match that are not handed out yet. -/
  waiting : List Token
  deriving DecidableEq, Repr

namespace Lexer

def ofString (text : String) : Lexer := ⟨text.toList, 0, .base, []⟩

def mode (lx : Lexer) : Mode := lx.modes.current

/-- Matches once and lets the tokens wait. There is nothing to match at the end. -/
def step? (lx : Lexer) : Option Lexer :=
  if lx.rest.isEmpty then none
  else
    let m := matchAt lx.mode lx.rest
    let text := lx.rest.take m.length
    some {
      rest := lx.rest.drop m.length
      position := lx.position + byteLength text
      modes := m.action.modes lx.modes
      waiting := lx.waiting ++ Lexeme.layOut lx.position (m.action.lexemes text) }

def pop? (lx : Lexer) : Option (Token × Lexer) :=
  match lx.waiting with
  | [] => none
  | t :: ts => some (t, { lx with waiting := ts })

def next? (lx : Lexer) : Option (Token × Lexer) :=
  if lx.waiting.isEmpty then lx.step?.bind pop? else lx.pop?

/-- A bound on how many tokens are still to come. -/
def remaining (lx : Lexer) : Nat := 3 * lx.rest.length + lx.waiting.length

theorem remaining_pop {lx lx' : Lexer} {t : Token} (h : lx.pop? = some (t, lx')) :
    lx'.remaining + 1 = lx.remaining := by
  unfold pop? at h
  split at h
  · simp at h
  · next hw =>
    obtain ⟨_, rfl⟩ := Prod.mk.inj (Option.some.inj h)
    simp [remaining, hw, Nat.add_assoc]

theorem remaining_step {lx lx' : Lexer} (h : lx.step? = some lx') :
    lx'.remaining ≤ lx.remaining := by
  unfold step? at h
  split at h
  · simp at h
  · next hne =>
    have hpos := match_at_pos lx.mode lx.rest
    have hle := match_at_le lx.mode (by simpa using hne)
    have hk := (matchAt lx.mode lx.rest).action.length_lexemes_le
      (lx.rest.take (matchAt lx.mode lx.rest).length)
    obtain rfl := Option.some.inj h
    simp only [remaining, List.length_drop, List.length_append, Lexeme.length_lay_out]
    omega

theorem remaining_next {lx lx' : Lexer} {t : Token} (h : lx.next? = some (t, lx')) :
    lx'.remaining < lx.remaining := by
  unfold next? at h
  split at h
  · obtain ⟨mid, hs, hp⟩ := Option.bind_eq_some_iff.mp h
    have := remaining_step hs
    have := remaining_pop hp
    omega
  · have := remaining_pop h
    omega

def tokens (lx : Lexer) : List Token :=
  match _ : lx.next? with
  | none => []
  | some (t, lx') => t :: tokens lx'
termination_by lx.remaining
decreasing_by exact remaining_next (by assumption)

theorem tokens_of_next_eq_none {lx : Lexer} (h : lx.next? = none) : lx.tokens = [] := by
  rw [tokens]
  split
  · rfl
  · next h' => simp [h] at h'

theorem tokens_of_next_eq_some {lx lx' : Lexer} {t : Token} (h : lx.next? = some (t, lx')) :
    lx.tokens = t :: lx'.tokens := by
  rw [tokens]
  split
  · next h' => simp [h] at h'
  · next h' =>
    obtain ⟨rfl, rfl⟩ := Prod.mk.inj (Option.some.inj (h'.symm.trans h))
    rfl

def atEnd (lx : Lexer) : Lexer :=
  match _ : lx.next? with
  | none => lx
  | some (_, lx') => atEnd lx'
termination_by lx.remaining
decreasing_by exact remaining_next (by assumption)

/-- At most `n` tokens, and the lexer after them. -/
def take : Nat → Lexer → List Token × Lexer
  | 0, lx => ([], lx)
  | n + 1, lx =>
    match lx.next? with
    | none => ([], lx)
    | some (t, lx') =>
      let (ts, last) := take n lx'
      (t :: ts, last)

end Lexer

def lex (text : String) : List Token := (Lexer.ofString text).tokens

end ArmTokens
