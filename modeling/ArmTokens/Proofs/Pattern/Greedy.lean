import ArmTokens.Proofs.Pattern.Locality

/-!
# Where a match begins and where it stops

A matcher is greedy for a class when no match of it leaves a character of the
class at its end, and it begins in a class when the first character of every
match is of the class. Runs are greedy, and a matcher that ends in a run is as
greedy as the run.
-/

set_option autoImplicit false

namespace ArmTokens

/-- The character behind a match is not of the class. -/
def GreedyFor (p : Char → Bool) (f : List Char → Option Nat) : Prop :=
  ∀ (cs : List Char) (n : Nat), f cs = some n → ∀ c ∈ (cs.drop n).head?, p c = false

def BeginsIn (p : Char → Bool) (f : List Char → Option Nat) : Prop :=
  ∀ (cs : List Char) (n : Nat), f cs = some n → ∃ c ∈ cs.head?, p c = true

namespace GreedyFor

variable {p : Char → Bool}

theorem by_head {k : Char → List Char → Option Nat} (hk : ∀ c, GreedyFor p (k c)) :
    GreedyFor p (byHead k) := by
  intro cs n h
  obtain ⟨c, tail, m, rfl, hm, rfl⟩ := by_head_some h
  rw [Nat.add_comm, List.drop_succ_cons]
  exact hk c tail m hm

theorem in_turn {f g : List Char → Option Nat} (hg : GreedyFor p g) : GreedyFor p (inTurn f g) := by
  intro cs n h
  obtain ⟨a, b, _, hb, rfl⟩ := in_turn_some h
  rw [← List.drop_drop]
  exact hg _ b hb

theorem guard {f : List Char → Option Nat} (q : Prop) [Decidable q] (hf : GreedyFor p f) :
    GreedyFor p fun cs => if q then f cs else none := by
  intro cs n h
  exact hf cs n (Option.ite_none_right_eq_some.mp h).2

theorem headed {f : List Char → Option Nat} (hf : GreedyFor p f) (a : Char) :
    GreedyFor p (headed a f) := by
  apply GreedyFor.by_head
  intro c
  exact GreedyFor.guard (c = a) hf

theorem run (p : Char → Bool) : GreedyFor p fun cs => some (runLength p cs) := by
  intro cs n h c hc
  obtain rfl := Option.some.inj h
  have hstop := List.head?_dropWhile_not p cs
  rw [← drop_run_length, Option.mem_def.mp hc] at hstop
  exact hstop

end GreedyFor

namespace BeginsIn

variable {p : Char → Bool}

theorem by_head {k : Char → List Char → Option Nat}
    (hk : ∀ c cs m, k c cs = some m → p c = true) : BeginsIn p (byHead k) := by
  intro cs n h
  obtain ⟨c, tail, m, rfl, hm, _⟩ := by_head_some h
  exact ⟨c, rfl, hk c tail m hm⟩

theorem in_class {f : List Char → Option Nat} :
    BeginsIn p (byHead fun c cs => if p c then f cs else none) := by
  apply BeginsIn.by_head
  intro c cs m h
  exact (Option.ite_none_right_eq_some.mp h).1

theorem headed {f : List Char → Option Nat} {a : Char} (ha : p a = true) :
    BeginsIn p (headed a f) := by
  apply BeginsIn.by_head
  intro c cs m h
  rw [(Option.ite_none_right_eq_some.mp h).1]
  exact ha

end BeginsIn

theorem greedy_run (p : Char → Bool) : GreedyFor p (runLength? p) := by
  rw [run_some_eq]
  apply GreedyFor.by_head
  intro c
  exact GreedyFor.guard (p c) (GreedyFor.run p)

theorem begins_run (p : Char → Bool) : BeginsIn p (runLength? p) := by
  rw [run_some_eq]
  exact BeginsIn.in_class

theorem begins_one_of (p : Char → Bool) : BeginsIn p (oneOf? p) := by
  rw [one_of_eq]
  exact BeginsIn.in_class

theorem begins_line (a : Char) (leader : List Char) :
    BeginsIn (· == a) (Pattern.lineLength? (a :: leader)) := by
  rw [line_cons_eq]
  exact BeginsIn.headed BEq.rfl

theorem greedy_line (leader : List Char) :
    GreedyFor (fun c => !isLineEnd c) (Pattern.lineLength? leader) := by
  induction leader with
  | nil =>
    rw [line_nil_eq]
    exact GreedyFor.run _
  | cons a leader ih =>
    rw [line_cons_eq]
    exact ih.headed a

theorem greedy_open_string : GreedyFor (fun c => !isLineEnd c) openStringLength? := by
  have hbody : GreedyFor (fun c => !isLineEnd c) openBodyLength? := by
    intro cs n h c hc
    obtain ⟨u, v, rfl, rfl, _, hv⟩ := open_body_eq_some_iff.mp h
    rw [List.drop_left] at hc
    exact congrArg not (hv c hc)
  rw [open_string_eq]
  exact hbody.headed '"'

namespace Radix

theorem greedy_unsigned (r : Radix) : GreedyFor r.isDigitOrGap r.unsignedLength? := by
  have hdigits : GreedyFor r.isDigitOrGap r.digitsLength? := by
    rw [digits_eq]
    apply GreedyFor.by_head
    intro c
    exact GreedyFor.guard (r.isDigit c) (GreedyFor.run _)
  exact GreedyFor.in_turn (f := r.leadLength?) hdigits

theorem greedy_literal (r : Radix) : GreedyFor r.isDigitOrGap r.literalLength? := by
  rw [literal_eq]
  exact r.greedy_unsigned.in_turn

theorem greedy_immediate (r : Radix) : GreedyFor r.isDigitOrGap r.immediateLength? := by
  rw [immediate_eq]
  exact r.greedy_literal.headed '#'

def isFirst : Radix → Char → Bool
  | .dec, c => c.isDigit
  | _, c => c == '0'

theorem begins_unsigned (r : Radix) : BeginsIn r.isFirst r.unsignedLength? := by
  intro cs n h
  by_cases hr : r = .dec
  · subst hr
    have hdigits : BeginsIn (isFirst .dec) (digitsLength? .dec) := by
      rw [digits_eq]
      exact BeginsIn.in_class
    obtain ⟨lead, hlead, h⟩ := Option.bind_eq_some_iff.mp h
    obtain ⟨m, hm, _⟩ := Option.map_eq_some_iff.mp h
    rw [lead_dec_eq] at hlead
    obtain rfl := Option.some.inj hlead
    exact hdigits cs m hm
  · have hzero : r.isFirst '0' = true := by
      cases r with
      | dec => exact absurd rfl hr
      | _ => rfl
    have hlead : BeginsIn r.isFirst r.leadLength? := by
      rw [lead_eq hr]
      exact BeginsIn.headed hzero
    obtain ⟨lead, hsome, _⟩ := Option.bind_eq_some_iff.mp h
    exact hlead cs lead hsome

theorem begins_literal (r : Radix) :
    BeginsIn (fun c => c == '-' || r.isFirst c) r.literalLength? := by
  intro cs n h
  unfold literalLength? at h
  split at h
  · exact ⟨'-', rfl, rfl⟩
  · obtain ⟨c, hc, hfirst⟩ := r.begins_unsigned cs n h
    exact ⟨c, hc, Bool.or_eq_true_iff.mpr (.inr hfirst)⟩

end Radix

namespace Pattern

/-- The characters that a match of the pattern would go on over. -/
def goesOn : Pattern → Char → Bool
  | .identifier, c => isIdentifierPart c
  | .whitespace, c => isBlank c
  | .symbols, c => isSymbol c
  | .immediate r, c | .bare r, c => r.isDigitOrGap c
  | .openString, c | .comment, c | .expectPass, c | .expectFail, c => !isLineEnd c
  | .stringText, c => isStringText c
  | _, _ => false

def begins : Pattern → Char → Bool
  | .identifier, c => isIdentifierStart c
  | .whitespace, c => isBlank c
  | .symbols, c => isSymbol c
  | .bare r, c => c == '-' || r.isFirst c
  | .stringText, c => isStringText c
  | _, _ => true

theorem greedy (p : Pattern) : GreedyFor p.goesOn p.matchLength? := by
  cases p with
  | identifier =>
    show GreedyFor isIdentifierPart identifierLength?
    rw [identifier_eq]
    apply GreedyFor.by_head
    intro c
    exact GreedyFor.guard (isIdentifierStart c) (GreedyFor.run _)
  | whitespace => exact greedy_run _
  | symbols => exact greedy_run _
  | immediate r => exact r.greedy_immediate
  | bare r => exact r.greedy_literal
  | openString => exact greedy_open_string
  | comment => exact greedy_line _
  | expectPass => exact greedy_line _
  | expectFail => exact greedy_line _
  | stringText => exact greedy_run _
  | _ => exact fun _ _ _ _ _ => rfl

/-- The characters that a match of the pattern can begin with. -/
def opens : Pattern → Char → Bool
  | .identifier, c => isIdentifierStart c
  | .whitespace, c => isBlank c
  | .bracket, c => isBracket c
  | .symbols, c => isSymbol c
  | .immediate _, c => c == '#'
  | .bare r, c => c == '-' || r.isFirst c
  | .delimiter, c => isDelimiter c
  | .openString, c | .doubleQuote, c => c == '"'
  | .charLiteral, c | .charEscape, c | .singleQuote, c => c == '\''
  | .escape, c | .anyEscape, c => c == '\\'
  | .comment, c => c == ';'
  | .expectPass, c | .expectFail, c => c == '>'
  | .stringText, c => isStringText c

theorem opens_in (p : Pattern) : BeginsIn p.opens p.matchLength? := by
  cases p with
  | identifier =>
    show BeginsIn isIdentifierStart identifierLength?
    rw [identifier_eq]
    exact BeginsIn.in_class
  | whitespace => exact begins_run _
  | bracket => exact begins_one_of _
  | symbols => exact begins_run _
  | immediate r =>
    show BeginsIn (· == '#') r.immediateLength?
    rw [Radix.immediate_eq]
    exact BeginsIn.headed rfl
  | bare r => exact r.begins_literal
  | delimiter => exact begins_one_of _
  | openString =>
    show BeginsIn (· == '"') openStringLength?
    rw [open_string_eq]
    exact BeginsIn.headed rfl
  | doubleQuote => exact begins_one_of _
  | charLiteral =>
    show BeginsIn (· == '\'') charLiteralLength?
    rw [char_literal_eq]
    exact BeginsIn.headed rfl
  | charEscape =>
    show BeginsIn (· == '\'') charEscapeLength?
    rw [char_escape_eq]
    exact BeginsIn.headed rfl
  | singleQuote => exact begins_one_of _
  | escape =>
    show BeginsIn (· == '\\') escapeLength?
    rw [escape_eq]
    exact BeginsIn.headed rfl
  | anyEscape =>
    show BeginsIn (· == '\\') anyEscapeLength?
    rw [any_escape_eq]
    exact BeginsIn.headed rfl
  | comment => exact begins_line _ _
  | expectPass => exact begins_line _ _
  | expectFail => exact begins_line _ _
  | stringText => exact begins_run _

theorem begins_of_opens {p : Pattern} {c : Char} (h : p.opens c = true) : p.begins c = true := by
  cases p <;> first | exact h | rfl

theorem begins_in (p : Pattern) : BeginsIn p.begins p.matchLength? := by
  intro cs n h
  obtain ⟨c, hc, hopens⟩ := p.opens_in cs n h
  exact ⟨c, hc, begins_of_opens hopens⟩

end Pattern

end ArmTokens
