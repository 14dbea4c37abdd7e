import ArmTokens.Pattern.Basic
import ArmTokens.Proofs.Pattern.Number
import ArmTokens.Proofs.Pattern.Quoted

/-!
# What the patterns depend on

Every pattern but the open string grows. The open string only settles: it may
match for no other reason than that the text ends. Blanks, string text and the
character between two quotes may be line ends, and every other pattern stays on
its line.
-/

set_option autoImplicit false

namespace ArmTokens

theorem identifier_eq : Pattern.identifierLength? = byHead fun c cs =>
    if isIdentifierStart c then some (runLength isIdentifierPart cs) else none := by
  ext cs : 1
  cases cs with
  | nil => rfl
  | cons c cs =>
    rw [Pattern.identifierLength?, byHead]
    split <;> rfl

theorem line_nil_eq :
    Pattern.lineLength? [] = fun cs => some (runLength (fun c => !isLineEnd c) cs) := by
  ext cs : 1
  simp [Pattern.lineLength?]

theorem line_cons_eq (a : Char) (leader : List Char) :
    Pattern.lineLength? (a :: leader) = headed a (Pattern.lineLength? leader) := by
  apply eq_headed
  · rfl
  · intro cs
    by_cases hp : leader.isPrefixOf cs = true
    · simp [Pattern.lineLength?, hp]
      omega
    · simp [Pattern.lineLength?, hp]
  · intro c cs hc
    simp [Pattern.lineLength?, Ne.symm hc]

theorem grows_line (leader : List Char) : Grows (Pattern.lineLength? leader) := by
  induction leader with
  | nil =>
    rw [line_nil_eq]
    exact Grows.run _
  | cons a leader ih =>
    rw [line_cons_eq]
    exact ih.headed a

theorem avoids_line {a : Char} (ha : isLineEnd a = true) {leader : List Char}
    (h : leader.any isLineEnd = false) : Avoids a (Pattern.lineLength? leader) := by
  induction leader with
  | nil =>
    rw [line_nil_eq]
    exact Avoids.run (by rw [ha]; rfl)
  | cons b leader ih =>
    obtain ⟨hb, hleader⟩ := Bool.or_eq_false_iff.mp (List.any_cons.symm.trans h)
    have hab : a ≠ b := by
      rintro rfl
      rw [hb] at ha
      cases ha
    rw [line_cons_eq]
    exact Avoids.headed (ih hleader) hab

namespace Pattern

theorem grows {p : Pattern} (hp : p ≠ .openString) : Grows p.matchLength? := by
  cases p with
  | identifier =>
    show Grows identifierLength?
    rw [identifier_eq]
    apply Grows.by_head
    intro c
    exact Grows.guard (isIdentifierStart c) (Grows.run _)
  | whitespace => exact grows_run _
  | bracket => exact grows_one_of _
  | symbols => exact grows_run _
  | immediate r => exact r.grows_immediate
  | bare r => exact r.grows_literal
  | delimiter => exact grows_one_of _
  | openString => exact absurd rfl hp
  | doubleQuote => exact grows_one_of _
  | charLiteral => exact grows_char_literal
  | charEscape => exact grows_char_escape
  | singleQuote => exact grows_one_of _
  | escape => exact grows_escape
  | anyEscape => exact grows_any_escape
  | comment => exact grows_line _
  | expectPass => exact grows_line _
  | expectFail => exact grows_line _
  | stringText => exact grows_run _

theorem settles (p : Pattern) : Settles p.matchLength? := by
  by_cases hp : p = .openString
  · rw [hp]
    exact settles_open_string
  · exact (grows hp).toSettles

theorem none_of_append {p : Pattern} (hp : p ≠ .openString) {w z : List Char}
    (h : p.matchLength? (w ++ z) = none) : p.matchLength? w = none := by
  cases hw : p.matchLength? w with
  | none => rfl
  | some n =>
    by_cases hlt : n < w.length
    · rw [(grows hp).extend z hw hlt] at h
      cases h
    · obtain ⟨n', _, hn'⟩ := (grows hp).grow z hw (by omega)
      rw [hn'] at h
      cases h

/-- A match of the pattern may hold a line end. -/
def crossesLines : Pattern → Bool
  | .whitespace | .stringText | .charLiteral => true
  | _ => false

/-- The characters that a match of the pattern may hold. -/
def holds : Pattern → Char → Bool
  | .identifier, c => isIdentifierStart c || isIdentifierPart c
  | .whitespace, c => isBlank c
  | .bracket, c => isBracket c
  | .symbols, c => isSymbol c
  | .immediate r, c => c == '#' || r.holds c
  | .bare r, c => r.holds c
  | .delimiter, c => isDelimiter c
  | .doubleQuote, c => c == '"'
  | .charLiteral, _ => true
  | .charEscape, c => c == '\'' || escapeHolds c
  | .singleQuote, c => c == '\''
  | .escape, c => escapeHolds c
  | .stringText, c => isStringText c
  | .openString, c | .anyEscape, c | .comment, c | .expectPass, c | .expectFail, c => !isLineEnd c

theorem avoids {p : Pattern} {a : Char} (h : p.holds a = false) : Avoids a p.matchLength? := by
  cases p with
  | identifier =>
    obtain ⟨hstart, hpart⟩ := Bool.or_eq_false_iff.mp h
    show Avoids a identifierLength?
    rw [identifier_eq]
    exact Avoids.in_class hstart (Avoids.run hpart)
  | whitespace => exact avoids_run h
  | bracket => exact avoids_one_of h
  | symbols => exact avoids_run h
  | immediate r =>
    obtain ⟨hhash, hliteral⟩ := Bool.or_eq_false_iff.mp h
    exact Radix.avoids_immediate hliteral (beq_eq_false_iff_ne.mp hhash)
  | bare r => exact Radix.avoids_literal h
  | delimiter => exact avoids_one_of h
  | openString => exact avoids_open_string (Bool.not_eq_eq_eq_not.mp h)
  | doubleQuote => exact avoids_one_of h
  | charLiteral => cases h
  | charEscape =>
    obtain ⟨hquote, hescape⟩ := Bool.or_eq_false_iff.mp h
    exact avoids_char_escape hescape (beq_eq_false_iff_ne.mp hquote)
  | singleQuote => exact avoids_one_of h
  | escape => exact avoids_escape h
  | anyEscape => exact avoids_any_escape (Bool.not_eq_eq_eq_not.mp h)
  | comment => exact avoids_line (Bool.not_eq_eq_eq_not.mp h) rfl
  | expectPass => exact avoids_line (Bool.not_eq_eq_eq_not.mp h) rfl
  | expectFail => exact avoids_line (Bool.not_eq_eq_eq_not.mp h) rfl
  | stringText => exact avoids_run h

theorem on_one_line {p : Pattern} (hp : p.crossesLines = false) : OnOneLine p.matchLength? := by
  have hout : p.holds '\n' = false ∧ p.holds '\r' = false := by
    cases p with
    | whitespace => cases hp
    | stringText => cases hp
    | charLiteral => cases hp
    | immediate r => cases r <;> decide
    | bare r => cases r <;> decide
    | _ => decide
  exact (avoids hout.1).on_one_line (avoids hout.2)

end Pattern

end ArmTokens
