import ArmTokens.Proofs.Pattern.Comment
import ArmTokens.Proofs.Pattern.Literal

/-!
# Patterns that match the same text

Two matchers are apart when no text is matched by both. They are when their
matches begin in classes that have no character in common, and they stay so
behind a common front. Some patterns begin with the same character and are still
apart. The others of which two match the same text are tried in a fixed order.
-/

set_option autoImplicit false

namespace ArmTokens

/-- No text is matched by both. -/
def Apart (f g : List Char → Option Nat) : Prop := ∀ cs : List Char, f cs = none ∨ g cs = none

namespace Apart

variable {f f' g g' : List Char → Option Nat}

theorem symm (h : Apart f g) : Apart g f := fun cs => (h cs).symm

theorem of_begins {p q : Char → Bool} (hf : BeginsIn p f) (hg : BeginsIn q g)
    (hpq : ∀ c, p c = true → q c = false) : Apart f g := by
  intro cs
  cases hm : f cs with
  | none => exact .inl rfl
  | some m =>
    cases hn : g cs with
    | none => exact .inr rfl
    | some n =>
      obtain ⟨c, hc, hp⟩ := hf cs m hm
      obtain ⟨d, hd, hq⟩ := hg cs n hn
      obtain rfl := Option.mem_unique hc hd
      exact Bool.noConfusion ((hpq c hp).symm.trans hq)

theorem headed (h : Apart f g) (a : Char) : Apart (headed a f) (headed a g) := by
  intro cs
  cases cs with
  | nil => exact .inl rfl
  | cons c cs =>
    rw [ArmTokens.headed, ArmTokens.headed, byHead, byHead]
    split
    · rw [Option.map_eq_none_iff, Option.map_eq_none_iff]
      exact h cs
    · exact .inl rfl

theorem then_any (h : Apart f f') : Apart (inTurn f g) (inTurn f' g') := by
  intro cs
  rcases h cs with hnone | hnone
  · exact .inl (by rw [inTurn, hnone]; rfl)
  · exact .inr (by rw [inTurn, hnone]; rfl)

theorem behind (h : Apart g g') : Apart (inTurn f g) (inTurn f g') := by
  intro cs
  rw [inTurn, inTurn]
  cases f cs with
  | none => exact .inl rfl
  | some n =>
    rw [Option.bind_some, Option.bind_some, Option.map_eq_none_iff, Option.map_eq_none_iff]
    exact h _

end Apart

namespace Radix

theorem apart_hex_bin : Apart hex.unsignedLength? bin.unsignedLength? := by
  intro cs
  rw [← Option.not_isSome_iff_eq_none, ← Option.not_isSome_iff_eq_none,
    ← announced_iff_some (by decide), ← announced_iff_some (by decide)]
  cases announced cs <;> decide

theorem apart_literals : Apart hex.literalLength? bin.literalLength? := by
  rw [literal_eq, literal_eq]
  exact apart_hex_bin.behind

theorem apart_immediates : Apart hex.immediateLength? bin.immediateLength? := by
  rw [immediate_eq, immediate_eq]
  exact apart_literals.headed '#'

end Radix

theorem apart_chars : Apart charLiteralLength? charEscapeLength? := by
  rw [char_literal_eq, char_escape_eq]
  apply Apart.headed
  apply Apart.then_any
  rw [escape_eq]
  apply Apart.of_begins (begins_one_of _) (BeginsIn.headed (p := (· == '\\')) rfl)
  intro c hc
  exact beq_eq_false_iff_ne.mpr (bne_iff_ne.mp (Bool.and_eq_true_iff.mp hc).1)

theorem apart_expectations :
    Apart (Pattern.lineLength? ['>', '>', ';']) (Pattern.lineLength? ['>', '>', '-']) := by
  simp only [line_cons_eq '>']
  apply Apart.headed
  apply Apart.headed
  apply Apart.of_begins (begins_line ';' []) (begins_line '-' [])
  intro c hc
  rw [beq_iff_eq.mp hc]
  rfl

namespace Pattern

/-- Both patterns match some text, and the first is the one to be tried first. -/
def precedes : Pattern → Pattern → Bool
  | .symbols, .bare _ => true
  | .immediate .hex, .immediate .dec | .immediate .bin, .immediate .dec => true
  | .bare .hex, .bare .dec | .bare .bin, .bare .dec => true
  | .openString, .doubleQuote => true
  | .charLiteral, .singleQuote | .charEscape, .singleQuote => true
  | .escape, .anyEscape => true
  | _, _ => false

/-- The patterns begin with the same character and are apart behind it. -/
def partsFrom : Pattern → Pattern → Bool
  | .immediate .hex, .immediate .bin => true
  | .bare .hex, .bare .bin => true
  | .charLiteral, .charEscape => true
  | .expectPass, .expectFail => true
  | _, _ => false

theorem apart_of_parts_from {p q : Pattern} (h : p.partsFrom q = true) :
    Apart p.matchLength? q.matchLength? := by
  unfold partsFrom at h
  split at h
  · exact Radix.apart_immediates
  · exact Radix.apart_literals
  · exact apart_chars
  · exact apart_expectations
  · cases h

end Pattern

end ArmTokens
