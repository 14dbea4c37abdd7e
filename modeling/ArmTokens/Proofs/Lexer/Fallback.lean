import ArmTokens.Proofs.Bytes.Encoding
import ArmTokens.Proofs.Lexer.Start
import ArmTokens.Proofs.Pattern.Comment
import ArmTokens.Proofs.Pattern.Literal

/-!
# Where no rule matches

A rule fails before every character that its pattern does not begin with, so a
character that begins no pattern is left over. The others that are left over
begin only patterns that ask for more than they find: a number behind `#`, one
of two leaders behind `>`, a character on the line behind a backslash.
-/

set_option autoImplicit false

namespace ArmTokens

def isControl (c : Char) : Bool :=
  (c.toNat < 32 || c.toNat == 127) && c != '\t' && c != '\n' && c != '\r'

/-- Where no rule of the root mode matches. -/
inductive RootGap : List Char → Prop
  | beyondAscii {c : Char} {cs : List Char} : 128 ≤ c.toNat → RootGap (c :: cs)
  | control {c : Char} {cs : List Char} : isControl c = true → RootGap (c :: cs)
  | stray {c : Char} {cs : List Char} : c = '<' ∨ c = '@' ∨ c = '\x60' → RootGap (c :: cs)
  | mark {cs : List Char} : startsNumber (withoutSign cs) = false → RootGap ('#' :: cs)
  | angle {cs : List Char} : ¬['>', '>', ';'] <+: '>' :: cs → ¬['>', '>', '-'] <+: '>' :: cs →
      RootGap ('>' :: cs)
  | backslash {cs : List Char} : AtLineEnd cs → RootGap ('\\' :: cs)

def StringGap (cs : List Char) : Prop := ∃ tail, cs = '\\' :: tail ∧ AtLineEnd tail

theorem first_match_none_iff_opens {rules : List Rule} {c : Char} {cs : List Char} :
    firstMatch? rules (c :: cs) = none ↔
      ∀ r ∈ rules, r.pattern.opens c = true → r.pattern.matchLength? (c :: cs) = none := by
  rw [first_match_none_iff]
  constructor
  · intro h r hr _
    exact h r hr
  · intro h r hr
    cases hc : r.pattern.opens c with
    | true => exact h r hr hc
    | false => exact Pattern.none_of_head hc cs

theorem Radix.ascii_only_is_first (r : Radix) : AsciiOnly r.isFirst := by
  cases r with
  | dec => exact ArmTokens.ascii_only_is_digit
  | _ => exact ascii_only_beq (by decide)

theorem Pattern.ascii_only_opens {p : Pattern} (hp : p ≠ .stringText) : AsciiOnly p.opens := by
  cases p with
  | identifier => exact ascii_only_is_identifier_start
  | whitespace => exact ascii_only_is_blank
  | bracket => exact ascii_only_is_bracket
  | symbols => exact ascii_only_is_symbol
  | bare r => exact (ascii_only_beq (by decide)).or r.ascii_only_is_first
  | delimiter => exact ascii_only_is_delimiter
  | stringText => exact absurd rfl hp
  | _ => exact ascii_only_beq (by decide)

/-- The characters that a rule of the root mode takes whatever stands behind them. -/
def isSettled (c : Char) : Bool :=
  c.isDigit || rootRules.any fun r => r.pattern.toldByHead && r.pattern.opens c

theorem root_some_of_settled {c : Char} (hc : isSettled c = true) (cs : List Char) :
    firstMatch? rootRules (c :: cs) ≠ none := by
  intro h
  rw [first_match_none_iff] at h
  rcases Bool.or_eq_true_iff.mp hc with hdigit | hany
  · have hstarts : startsNumber (c :: cs) = true := hdigit
    have hbare : Radix.dec.literalLength? (c :: cs) = none :=
      h ⟨.bare .dec, .emit .bareDec⟩ (by decide)
    have hsome := Radix.dec_some_iff.mpr hstarts
    rw [← Radix.literal_of_starts hstarts, hbare] at hsome
    cases hsome
  · obtain ⟨r, hr, hrule⟩ := List.any_eq_true.mp hany
    obtain ⟨htold, hopens⟩ := Bool.and_eq_true_iff.mp hrule
    exact Bool.noConfusion (((Pattern.none_iff_of_told htold).mp (h r hr)).symm.trans hopens)

theorem unsettled_cases {c : Char} (hascii : c.toNat < 128) (hc : isSettled c = false) :
    isControl c = true ∨ (c = '<' ∨ c = '@' ∨ c = '\x60') ∨ c = '#' ∨ c = '>' ∨ c = '\\' :=
  of_ascii (P := fun c => isSettled c = false → isControl c = true ∨
    (c = '<' ∨ c = '@' ∨ c = '\x60') ∨ c = '#' ∨ c = '>' ∨ c = '\\') (by decide) hascii hc

def opensNone (rules : List Rule) (c : Char) : Bool := rules.all fun r => !r.pattern.opens c

theorem first_match_of_opens_none {rules : List Rule} {c : Char} (h : opensNone rules c = true)
    (cs : List Char) : firstMatch? rules (c :: cs) = none := by
  rw [first_match_none_iff_opens]
  intro r hr hopens
  have hclosed := List.all_eq_true.mp h r hr
  rw [hopens] at hclosed
  cases hclosed

theorem opens_none_of_beyond_ascii {c : Char} (hc : 128 ≤ c.toNat) :
    opensNone rootRules c = true := by
  have htext : ∀ r ∈ rootRules, r.pattern ≠ .stringText := by decide
  rw [opensNone, List.all_eq_true]
  intro r hr
  rw [Bool.not_eq_true', ← Bool.not_eq_true]
  intro hopens
  have hascii := Pattern.ascii_only_opens (htext r hr) c hopens
  omega

theorem opens_none_of_control {c : Char} (hc : isControl c = true) :
    opensNone rootRules c = true := by
  have hascii : c.toNat < 128 := by
    simp only [isControl, Bool.and_eq_true, Bool.or_eq_true, decide_eq_true_eq, beq_iff_eq] at hc
    omega
  exact of_ascii (P := fun c => isControl c = true → opensNone rootRules c = true) (by decide)
    hascii hc

theorem gap_of_root_none {c : Char} {cs : List Char} (h : firstMatch? rootRules (c :: cs) = none) :
    RootGap (c :: cs) := by
  by_cases hascii : c.toNat < 128
  · have hunsettled : isSettled c = false := by
      rw [← Bool.not_eq_true]
      intro hc
      exact root_some_of_settled hc cs h
    rw [first_match_none_iff] at h
    rcases unsettled_cases hascii hunsettled with hc | hc | rfl | rfl | rfl
    · exact .control hc
    · exact .stray hc
    · have himmediate := h ⟨.immediate .dec, .emit .immediateDec⟩ (by decide)
      exact .mark (Radix.literal_dec_none_iff.mp (Radix.immediate_none_iff.mp himmediate))
    · have hpass := h ⟨.expectPass, .emit .commentExpectPass⟩ (by decide)
      have hfail := h ⟨.expectFail, .emit .commentExpectFail⟩ (by decide)
      exact .angle (line_none_iff.mp hpass) (line_none_iff.mp hfail)
    · have hescape := h ⟨.anyEscape, .emit .stringEscapeInvalid⟩ (by decide)
      exact .backslash (any_escape_none_iff.mp hescape)
  · exact .beyondAscii (Nat.le_of_not_lt hascii)

theorem root_none_of_gap {cs : List Char} (h : RootGap cs) : firstMatch? rootRules cs = none := by
  cases h with
  | beyondAscii hc => exact first_match_of_opens_none (opens_none_of_beyond_ascii hc) _
  | control hc => exact first_match_of_opens_none (opens_none_of_control hc) _
  | stray hc => exact first_match_of_opens_none (by rcases hc with rfl | rfl | rfl <;> decide) _
  | @mark cs hstarts =>
    have hrules : ∀ r ∈ rootRules, r.pattern.opens '#' = true →
        r.pattern = .immediate .hex ∨ r.pattern = .immediate .bin ∨
          r.pattern = .immediate .dec := by
      decide
    have hnone : ∀ q : Radix, (Pattern.immediate q).matchLength? ('#' :: cs) = none := fun q =>
      Radix.immediate_none_iff.mpr (Radix.literal_none hstarts q)
    rw [first_match_none_iff_opens]
    intro r hr hopens
    rcases hrules r hr hopens with h | h | h <;> rw [h, hnone]
  | angle hpass hfail =>
    have hrules : ∀ r ∈ rootRules, r.pattern.opens '>' = true →
        r.pattern = .expectPass ∨ r.pattern = .expectFail := by
      decide
    rw [first_match_none_iff_opens]
    intro r hr hopens
    rcases hrules r hr hopens with h | h
    · rw [h]
      exact line_none_iff.mpr hpass
    · rw [h]
      exact line_none_iff.mpr hfail
  | backslash hend =>
    have hrules : ∀ r ∈ rootRules, r.pattern.opens '\\' = true → r.pattern = .anyEscape := by
      decide
    rw [first_match_none_iff_opens]
    intro r hr hopens
    rw [hrules r hr hopens]
    exact any_escape_none_iff.mpr hend

theorem gap_of_string_none {c : Char} {cs : List Char}
    (h : firstMatch? stringRules (c :: cs) = none) : StringGap (c :: cs) := by
  rw [first_match_none_iff] at h
  have htext := h ⟨.stringText, .emit .string⟩ (by decide)
  have hquote := h ⟨.doubleQuote, .leave .stringQuoteClose⟩ (by decide)
  have hescape := h ⟨.anyEscape, .emit .stringEscapeInvalid⟩ (by decide)
  rw [Pattern.none_iff_of_told rfl] at htext hquote
  have hback : c = '\\' := by
    simp only [Pattern.opens, isStringText, Bool.and_eq_false_iff, bne_eq_false_iff_eq,
      beq_eq_false_iff_ne] at htext hquote
    exact htext.resolve_left hquote
  subst hback
  exact ⟨cs, rfl, any_escape_none_iff.mp hescape⟩

theorem string_none_of_gap {cs : List Char} (h : StringGap cs) :
    firstMatch? stringRules cs = none := by
  obtain ⟨tail, rfl, hend⟩ := h
  have hrules : ∀ r ∈ stringRules, r.pattern.opens '\\' = true →
      r.pattern = .escape ∨ r.pattern = .anyEscape := by
    decide
  rw [first_match_none_iff_opens]
  intro r hr hopens
  rcases hrules r hr hopens with h | h
  · rw [h]
    exact escape_none_of_line_end hend
  · rw [h]
    exact any_escape_none_iff.mpr hend

theorem none_of_invalid {mode : Mode} {cs : List Char} {l : Lexeme}
    (hl : l ∈ (matchAt mode cs).action.lexemes (cs.take (matchAt mode cs).length))
    (hinvalid : l.category = .invalid) : firstMatch? mode.rules cs = none := by
  have hall : ∀ mode : Mode, ∀ r ∈ mode.rules, Category.invalid ∉ r.action.categories := by
    intro mode
    cases mode <;> decide
  rcases match_at_cases mode cs with ⟨r, hr, _, hact⟩ | ⟨hnone, _⟩
  · have hcategory := category_mem hl
    rw [hinvalid, hact] at hcategory
    exact absurd hcategory (hall mode r hr)
  · exact first_match_none_iff.mpr hnone

namespace MatchStarts

variable {text : String} {mode : Mode} {lx : Lexer}

theorem makes_invalid (h : MatchStarts text mode lx) (hnone : firstMatch? mode.rules lx.rest = none)
    {c : Char} {cs : List Char} (hrest : lx.rest = c :: cs) : lx.Makes [⟨[c], .invalid⟩] := by
  rw [h.makes_iff, matchAt, hnone, hrest]
  rfl

theorem gap (h : MatchStarts text mode lx) (hnone : firstMatch? mode.rules lx.rest = none) :
    (MatchStarts text .root lx ∧ RootGap lx.rest) ∨
      (MatchStarts text .string lx ∧ StringGap lx.rest) := by
  obtain ⟨c, cs, hrest⟩ := List.exists_cons_of_ne_nil h.text_left
  rw [hrest] at hnone ⊢
  rcases h.root_or_string with rfl | rfl
  · exact .inl ⟨h, gap_of_root_none hnone⟩
  · exact .inr ⟨h, gap_of_string_none hnone⟩

end MatchStarts

theorem start_of_invalid {text : String} {t : Token} (ht : t ∈ lex text)
    (hinvalid : t.category = .invalid) :
    ∃ mode lx c cs, MatchStarts text mode lx ∧ firstMatch? mode.rules lx.rest = none ∧
      lx.rest = c :: cs ∧ t = Lexeme.token ⟨[c], .invalid⟩ lx.position := by
  obtain ⟨mode, lx, l, hstarts, ht, hl, hcategory, _⟩ := token_of_match ht
  have hnone := none_of_invalid hl (hcategory.symm.trans hinvalid)
  obtain ⟨c, cs, hrest⟩ := List.exists_cons_of_ne_nil hstarts.text_left
  rw [hstarts.matched_eq (hstarts.makes_invalid hnone hrest)] at ht
  exact ⟨mode, lx, c, cs, hstarts, hnone, hrest, List.mem_singleton.mp ht⟩

theorem MatchStarts.invalid_mem {text : String} {mode : Mode} {lx : Lexer}
    (h : MatchStarts text mode lx) (hnone : firstMatch? mode.rules lx.rest = none) {c : Char}
    {cs : List Char} (hrest : lx.rest = c :: cs) :
    Lexeme.token ⟨[c], .invalid⟩ lx.position ∈ lex text :=
  h.mem_lex (h.makes_invalid hnone hrest) List.mem_cons_self

/-- No rule matches in the gaps of its mode and nowhere else, and the invalid tokens of a text are
the single characters at the gaps where a match starts. -/
theorem invalid_at_gaps :
    (∀ cs, cs ≠ [] → (firstMatch? Mode.root.rules cs = none ↔ RootGap cs)) ∧
    (∀ cs, cs ≠ [] → (firstMatch? Mode.string.rules cs = none ↔ StringGap cs)) ∧
    ∀ text t, (t ∈ lex text ∧ t.category = .invalid) ↔
      ∃ lx c cs, lx.rest = c :: cs ∧ t = Lexeme.token ⟨[c], .invalid⟩ lx.position ∧
        ((MatchStarts text .root lx ∧ RootGap lx.rest) ∨
          (MatchStarts text .string lx ∧ StringGap lx.rest)) := by
  refine ⟨?root, ?string, ?tokens⟩
  case root =>
    intro cs hne
    obtain ⟨c, cs, rfl⟩ := List.exists_cons_of_ne_nil hne
    exact ⟨gap_of_root_none, root_none_of_gap⟩
  case string =>
    intro cs hne
    obtain ⟨c, cs, rfl⟩ := List.exists_cons_of_ne_nil hne
    exact ⟨gap_of_string_none, string_none_of_gap⟩
  case tokens =>
    intro text t
    constructor
    · rintro ⟨ht, hinvalid⟩
      obtain ⟨mode, lx, c, cs, hstarts, hnone, hrest, htoken⟩ := start_of_invalid ht hinvalid
      exact ⟨lx, c, cs, hrest, htoken, hstarts.gap hnone⟩
    · rintro ⟨lx, c, cs, hrest, rfl, ⟨hstarts, hgap⟩ | ⟨hstarts, hgap⟩⟩
      · exact ⟨hstarts.invalid_mem (root_none_of_gap hgap) hrest, rfl⟩
      · exact ⟨hstarts.invalid_mem (string_none_of_gap hgap) hrest, rfl⟩

theorem invalid_at_gaps_mark :
    firstMatch? Mode.root.rules ['#', '-', 'x'] = none ∧
    firstMatch? Mode.string.rules ['\\', '\n'] = none ∧
    Lexeme.token ⟨['#'], .invalid⟩ 0 ∈ lex "#-x" := by
  have hmark : RootGap ['#', '-', 'x'] := .mark rfl
  have hback : StringGap ['\\', '\n'] := ⟨['\n'], rfl, at_line_end_cons.mpr rfl⟩
  have hstarts : MatchStarts "#-x" .root (Lexer.ofString "#-x") := match_starts_first (by decide)
  refine ⟨(invalid_at_gaps.1 _ (by decide)).mpr hmark,
    (invalid_at_gaps.2.1 _ (by decide)).mpr hback,
    ((invalid_at_gaps.2.2 "#-x" _).mpr ⟨_, '#', ['-', 'x'], ?_, rfl, .inl ⟨hstarts, ?_⟩⟩).1⟩
  · rfl
  · exact hmark

end ArmTokens
