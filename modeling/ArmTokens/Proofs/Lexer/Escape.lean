import ArmTokens.Proofs.Lexer.Fallback
import ArmTokens.Proofs.Lexer.StringMode
import ArmTokens.Proofs.Pattern.Escape

/-!
# Escapes and characters in the run

A backslash in a string begins the longest escape there is, or an escape of one
character that is not recognised, or stands alone at the end of its line. A
quote in the root mode begins a character or an escape up to the next quote, or
stands alone.
-/

set_option autoImplicit false

namespace ArmTokens

theorem match_root_apostrophe (cs : List Char) :
    matchAt .root ('\'' :: cs) =
      match charLiteralLength? ('\'' :: cs), charEscapeLength? ('\'' :: cs) with
      | some n, _ => ⟨n, .emit .char⟩
      | none, some n => ⟨n, .quoted .char .stringEscape⟩
      | none, none => ⟨1, .emit .charInvalid⟩ := by
  have hbefore : firstMatch? (Mode.root.rules.take 13) ('\'' :: cs) = none :=
    first_match_of_opens_none (by decide) cs
  cases hliteral : charLiteralLength? ('\'' :: cs) with
  | some n => exact match_at_of_rule (r := ⟨.charLiteral, .emit .char⟩) hbefore rfl hliteral
  | none =>
    have hbehind := first_match_take_succ (r := ⟨.charLiteral, .emit .char⟩) hbefore rfl hliteral
    cases hescape : charEscapeLength? ('\'' :: cs) with
    | some n =>
      exact match_at_of_rule (r := ⟨.charEscape, .quoted .char .stringEscape⟩) hbehind rfl hescape
    | none =>
      have hlast := first_match_take_succ (r := ⟨.charEscape, .quoted .char .stringEscape⟩) hbehind
        rfl hescape
      exact match_at_of_rule (r := ⟨.singleQuote, .emit .charInvalid⟩) hlast rfl rfl

namespace MatchStarts

variable {text : String} {lx : Lexer}

section InString

variable (h : MatchStarts text .string lx) {cs : List Char} (hrest : lx.rest = '\\' :: cs)

include h hrest

theorem makes_escape (hany : ∃ e, e <+: lx.rest ∧ Escape e) :
    ∃ e, LongestFront Escape e lx.rest ∧ lx.Makes [⟨e, .stringEscape⟩] := by
  obtain ⟨n, hn⟩ := Option.isSome_iff_exists.mp (escape_some_iff.mpr hany)
  obtain ⟨e, he, rfl⟩ := escape_length_iff.mp hn
  refine ⟨e, he, h.makes_iff.mpr ?_⟩
  have htake : lx.rest.take e.length = e := he.take
  rw [hrest] at hn htake ⊢
  rw [match_string_backslash, hn]
  exact congrArg (fun u => [Lexeme.mk u .stringEscape]) htake

theorem makes_escape_invalid (hnone : ¬∃ e, e <+: lx.rest ∧ Escape e) {c : Char}
    {tail : List Char} (hcs : cs = c :: tail) (hline : isLineEnd c = false) :
    lx.Makes [⟨['\\', c], .stringEscapeInvalid⟩] := by
  subst hcs
  have hescape : escapeLength? ('\\' :: c :: tail) = none := by
    rw [← hrest, ← Option.not_isSome_iff_eq_none, escape_some_iff]
    exact hnone
  have hany : anyEscapeLength? ('\\' :: c :: tail) = some 2 := by
    rw [anyEscapeLength?, hline]
    rfl
  rw [h.makes_iff, hrest, match_string_backslash, hescape, hany]
  rfl

theorem makes_backslash (hend : AtLineEnd cs) : lx.Makes [⟨['\\'], .invalid⟩] :=
  h.makes_invalid (string_none_of_gap ⟨cs, hrest, hend⟩) hrest

end InString

section AtQuote

variable (h : MatchStarts text .root lx) {cs : List Char} (hrest : lx.rest = '\'' :: cs)

include h hrest

theorem makes_char {c : Char} (hc : CharAhead c cs) : lx.Makes [⟨['\'', c, '\''], .char⟩] := by
  have hliteral := char_literal_iff.mpr ⟨⟨c, hc⟩, rfl⟩
  obtain ⟨_, _, tail, rfl⟩ := hc
  rw [h.makes_iff, hrest, match_root_apostrophe, hliteral]
  rfl

theorem makes_char_escape {e : List Char} (he : EscapeAhead e cs) :
    lx.Makes [⟨['\''], .char⟩, ⟨e, .stringEscape⟩, ⟨['\''], .char⟩] := by
  have hliteral := char_literal_none he.not_char
  have hlength := char_escape_iff.mpr ⟨e, he, rfl⟩
  obtain ⟨_, tail, rfl⟩ := he
  have htake : ('\'' :: (e ++ '\'' :: tail)).take (e.length + 2) = '\'' :: (e ++ ['\'']) := by
    rw [List.take_succ_cons, List.take_length_add_append]
    rfl
  rw [h.makes_iff, hrest, match_root_apostrophe, hliteral, hlength]
  show Action.lexemes _ (('\'' :: (e ++ '\'' :: tail)).take (e.length + 2)) = _
  rw [htake, quoted_lexemes]

theorem makes_char_invalid (hchar : ¬∃ c, CharAhead c cs) (hescape : ¬∃ e, EscapeAhead e cs) :
    lx.Makes [⟨['\''], .charInvalid⟩] := by
  rw [h.makes_iff, hrest, match_root_apostrophe, char_literal_none hchar, char_escape_none hescape]
  rfl

/-- A quote is handed out in one of three ways. -/
theorem quote_outcomes :
    (∃ c, CharAhead c cs ∧ lx.Makes [⟨['\'', c, '\''], .char⟩]) ∨
    (∃ e, EscapeAhead e cs ∧ lx.Makes [⟨['\''], .char⟩, ⟨e, .stringEscape⟩, ⟨['\''], .char⟩]) ∨
    ((¬∃ c, CharAhead c cs) ∧ (¬∃ e, EscapeAhead e cs) ∧ lx.Makes [⟨['\''], .charInvalid⟩]) := by
  by_cases hchar : ∃ c, CharAhead c cs
  · obtain ⟨c, hc⟩ := hchar
    exact .inl ⟨c, hc, h.makes_char hrest hc⟩
  · by_cases hescape : ∃ e, EscapeAhead e cs
    · obtain ⟨e, he⟩ := hescape
      exact .inr (.inl ⟨e, he, h.makes_char_escape hrest he⟩)
    · exact .inr (.inr ⟨hchar, hescape, h.makes_char_invalid hrest hchar hescape⟩)

theorem makes_char_iff {c : Char} : lx.Makes [⟨['\'', c, '\''], .char⟩] ↔ CharAhead c cs := by
  refine ⟨fun hmakes => ?_, h.makes_char hrest⟩
  rcases h.quote_outcomes hrest with ⟨d, hd, hmakes'⟩ | ⟨e, _, hmakes'⟩ | ⟨_, _, hmakes'⟩
  · cases h.makes_unique hmakes hmakes'
    exact hd
  · cases h.makes_unique hmakes hmakes'
  · cases h.makes_unique hmakes hmakes'

theorem makes_char_escape_iff {e : List Char} :
    lx.Makes [⟨['\''], .char⟩, ⟨e, .stringEscape⟩, ⟨['\''], .char⟩] ↔ EscapeAhead e cs := by
  refine ⟨fun hmakes => ?_, h.makes_char_escape hrest⟩
  rcases h.quote_outcomes hrest with ⟨d, _, hmakes'⟩ | ⟨e', he', hmakes'⟩ | ⟨_, _, hmakes'⟩
  · cases h.makes_unique hmakes hmakes'
  · cases h.makes_unique hmakes hmakes'
    exact he'
  · cases h.makes_unique hmakes hmakes'

theorem makes_char_invalid_iff :
    lx.Makes [⟨['\''], .charInvalid⟩] ↔ (¬∃ c, CharAhead c cs) ∧ ¬∃ e, EscapeAhead e cs := by
  refine ⟨fun hmakes => ?_, fun hnone => h.makes_char_invalid hrest hnone.1 hnone.2⟩
  rcases h.quote_outcomes hrest with ⟨d, _, hmakes'⟩ | ⟨e, _, hmakes'⟩ | ⟨hchar, hescape, _⟩
  · cases h.makes_unique hmakes hmakes'
  · cases h.makes_unique hmakes hmakes'
  · exact ⟨hchar, hescape⟩

end AtQuote

end MatchStarts

/-- Escapes and characters follow their grammar. The longest escape in front is taken, in a string
and between quotes, and what is no escape is handed out as invalid. -/
theorem escapes_follow_grammar :
    (∀ cs, (escapeLength? cs).isSome = true ↔ ∃ u, u <+: cs ∧ Escape u) ∧
    (∀ cs n, escapeLength? cs = some n ↔
      ∃ u, LongestFront Escape u cs ∧ u.length = n ∧ byteLength u = n) ∧
    (∀ text lx cs, MatchStarts text .string lx → lx.rest = '\\' :: cs →
      ((∃ e, e <+: lx.rest ∧ Escape e) →
        ∃ e, LongestFront Escape e lx.rest ∧ lx.Makes [⟨e, .stringEscape⟩]) ∧
      ((¬∃ e, e <+: lx.rest ∧ Escape e) →
        (∀ c tail, cs = c :: tail → isLineEnd c = false →
          lx.Makes [⟨['\\', c], .stringEscapeInvalid⟩]) ∧
        (AtLineEnd cs → lx.Makes [⟨['\\'], .invalid⟩]))) ∧
    (∀ text lx cs, MatchStarts text .root lx → lx.rest = '\'' :: cs →
      (∀ c, lx.Makes [⟨['\'', c, '\''], .char⟩] ↔ CharAhead c cs) ∧
      (∀ e, lx.Makes [⟨['\''], .char⟩, ⟨e, .stringEscape⟩, ⟨['\''], .char⟩] ↔
        EscapeAhead e cs) ∧
      (lx.Makes [⟨['\''], .charInvalid⟩] ↔
        (¬∃ c, CharAhead c cs) ∧ ¬∃ e, EscapeAhead e cs)) := by
  refine ⟨fun _ => escape_some_iff, ?length, ?inString, ?atQuote⟩
  case length =>
    intro cs n
    rw [escape_length_iff]
    refine exists_congr fun u => and_congr_right fun hu => ?_
    rw [byte_length_of_ascii hu.has.ascii, and_self]
  case inString =>
    intro text lx cs hstarts hrest
    refine ⟨hstarts.makes_escape hrest, fun hnone => ⟨?_, hstarts.makes_backslash hrest⟩⟩
    intro c tail hcs hline
    exact hstarts.makes_escape_invalid hrest hnone hcs hline
  case atQuote =>
    intro text lx cs hstarts hrest
    exact ⟨fun c => hstarts.makes_char_iff hrest, fun e => hstarts.makes_char_escape_iff hrest,
      hstarts.makes_char_invalid_iff hrest⟩

theorem escapes_follow_grammar_hex :
    (∃ e, LongestFront Escape e ['\\', 'x', '4', '1', '4', '2', '0', '"'] ∧
      (Lexer.ofString "\"\\x41420\"").passed.Makes [⟨e, .stringEscape⟩]) ∧
    (Lexer.ofString "\"\\q\"").passed.Makes [⟨['\\', 'q'], .stringEscapeInvalid⟩] ∧
    (Lexer.ofString "'\\x41'").Makes
      [⟨['\''], .char⟩, ⟨['\\', 'x', '4', '1'], .stringEscape⟩, ⟨['\''], .char⟩] := by
  have hstring : MatchStarts "\"\\x41420\"" .string (Lexer.ofString "\"\\x41420\"").passed :=
    (match_starts_first (by decide)).passed (by decide)
  have hunknown : MatchStarts "\"\\q\"" .string (Lexer.ofString "\"\\q\"").passed :=
    (match_starts_first (by decide)).passed (by decide)
  have hquote : MatchStarts "'\\x41'" .root (Lexer.ofString "'\\x41'") :=
    match_starts_first (by decide)
  have hescape : Escape ['\\', 'x', '4', '1'] :=
    .hex (.inl rfl) (by decide) (by decide) (List.all_eq_true.mp rfl)
  have hnone : ¬∃ e, e <+: ['\\', 'q', '"'] ∧ Escape e := by
    rw [← escapes_follow_grammar.1]
    decide
  obtain ⟨_, _, hstrings, hquotes⟩ := escapes_follow_grammar
  refine ⟨(hstrings _ _ _ hstring rfl).1 ⟨_, ?_, hescape⟩,
    ((hstrings _ _ _ hunknown rfl).2 hnone).1 'q' ['"'] rfl rfl,
    ((hquotes _ _ _ hquote rfl).2.1 _).mpr ⟨hescape, [], rfl⟩⟩
  exact ⟨['4', '2', '0', '"'], rfl⟩

end ArmTokens
