import ArmTokens.Proofs.Lexer.LayOut
import ArmTokens.Proofs.Lexer.Locality

/-!
# Edits behind a line

A line feed stops every look ahead but one: between two single quotes it is a
character like any other. So the tokens of a text that ends in a line feed stay
when the text goes on behind it. Only the last of them, which holds the line
feed, may grow.
-/

set_option autoImplicit false

namespace ArmTokens

/-- The text ends in a line feed, and what is behind it does not make it a quoted one. -/
structure LineBefore (cs z : List Char) : Prop where
  feed : cs.getLast? = some '\n'
  unquoted : ¬ (['\'', '\n'] <:+ cs ∧ z.head? = some '\'')

namespace LineBefore

variable {cs z : List Char}

theorem ne_nil (h : LineBefore cs z) : cs ≠ [] := by
  rintro rfl
  cases h.feed

theorem drop (h : LineBefore cs z) {n : Nat} (hn : n < cs.length) : LineBefore (cs.drop n) z := by
  constructor
  · rw [List.getLast?_drop, if_neg (by omega)]
    exact h.feed
  · rintro ⟨hsuffix, hhead⟩
    exact h.unquoted ⟨hsuffix.trans (List.drop_suffix n cs), hhead⟩

theorem feed_mem (h : LineBefore cs z) : '\n' ∈ cs := List.mem_of_getLast? h.feed

theorem run_none (h : LineBefore cs z) {p : Char → Bool} (hn : runLength? p cs = none) :
    runLength? p (cs ++ z) = none := by
  obtain ⟨c, tail, rfl⟩ := List.exists_cons_of_ne_nil h.ne_nil
  exact run_none_iff.mpr (run_none_iff.mp hn)

theorem char_literal_none (h : LineBefore cs z) (hn : charLiteralLength? cs = none) :
    charLiteralLength? (cs ++ z) = none := by
  cases hz : charLiteralLength? (cs ++ z) with
  | none => rfl
  | some n =>
    obtain ⟨c, tail, htext, rfl⟩ := char_literal_some hz
    match cs, h with
    | [], h => exact absurd rfl h.ne_nil
    | [a], h =>
      have hfeed : a = '\n' := Option.some.inj h.feed
      rw [hfeed] at htext
      cases htext
    | [a, b], h =>
      have hfeed : b = '\n' := Option.some.inj h.feed
      obtain ⟨rfl, hbehind⟩ := List.cons.inj htext
      have hhead := congrArg List.head? (List.cons.inj hbehind).2
      rw [hfeed] at h
      exact absurd ⟨List.suffix_rfl, hhead⟩ h.unquoted
    | a :: b :: d :: cs, h =>
      rw [grows_char_literal.cut hz (by simp only [List.length_cons]; omega)] at hn
      cases hn

theorem pattern_none (h : LineBefore cs z) {p : Pattern} (hn : p.matchLength? cs = none) :
    p.matchLength? (cs ++ z) = none := by
  by_cases hp : p.crossesLines = true
  · cases p with
    | whitespace => exact h.run_none hn
    | stringText => exact h.run_none hn
    | charLiteral => exact h.char_literal_none hn
    | _ => cases hp
  · cases hz : p.matchLength? (cs ++ z) with
    | none => rfl
    | some n =>
      by_cases hle : n ≤ cs.length
      · rw [p.settles.cut hz hle] at hn
        cases hn
      · -- The longer match goes over the line feed, which no such pattern does.
        have hmem : '\n' ∈ (cs ++ z).take n := by
          rw [List.take_append, List.take_of_length_le (by omega)]
          exact List.mem_append_left _ h.feed_mem
        have hline := Pattern.on_one_line (by simpa using hp) _ _ hz _ hmem
        cases hline

theorem match_at (h : LineBefore cs z) {mode : Mode} (hlt : (matchAt mode cs).length < cs.length) :
    matchAt mode (cs ++ z) = matchAt mode cs := by
  apply match_at_eq
  · intro r hr hn
    exact r.pattern.settles.extend z hn hlt
  · intro r hr hn
    exact h.pattern_none hn

theorem crosses_of_whole (h : LineBefore cs z) {p : Pattern}
    (hn : p.matchLength? cs = some cs.length) : p.crossesLines = true ∧ p ≠ .charLiteral := by
  constructor
  · rw [← Bool.not_eq_false]
    intro hp
    have hline := Pattern.on_one_line hp _ _ hn '\n' (by rw [List.take_length]; exact h.feed_mem)
    cases hline
  · rintro rfl
    obtain ⟨c, tail, htext, hthree⟩ := char_literal_some hn
    have hfeed := h.feed
    rw [htext] at hfeed hthree
    have hnil : tail = [] := by
      apply List.eq_nil_of_length_eq_zero
      simp only [List.length_cons] at hthree
      omega
    rw [hnil] at hfeed
    cases hfeed

theorem action_of_run {mode : Mode} {r : Rule} (hr : r ∈ mode.rules)
    (hp : r.pattern.crossesLines = true ∧ r.pattern ≠ .charLiteral) :
    r.action = .emit .whitespace ∨ r.action = .emit .string := by
  have hall : ∀ mode : Mode, ∀ r ∈ mode.rules, r.pattern.crossesLines = true ∧
      r.pattern ≠ .charLiteral → r.action = .emit .whitespace ∨ r.action = .emit .string := by
    intro mode
    cases mode <;> decide
  exact hall mode r hr hp

theorem action_of_whole (h : LineBefore cs z) {mode : Mode}
    (hlen : (matchAt mode cs).length = cs.length) :
    ∃ c, (c = .whitespace ∨ c = .string) ∧ (matchAt mode cs).action = .emit c := by
  rcases match_at_cases mode cs with ⟨r, hr, hn, hact⟩ | ⟨hnone, hm⟩
  · rw [hlen] at hn
    rcases action_of_run hr (h.crosses_of_whole hn) with hemit | hemit
    · exact ⟨.whitespace, .inl rfl, hact.trans hemit⟩
    · exact ⟨.string, .inr rfl, hact.trans hemit⟩
  · rw [hm] at hlen
    obtain ⟨c, hc⟩ := List.length_eq_one_iff.mp hlen.symm
    have hfeed := h.feed
    rw [hc, List.getLast?_singleton, Option.some.injEq] at hfeed
    obtain ⟨r, hr, hsome⟩ := exists_line_end_rule mode (c := '\n') rfl []
    rw [hc, hfeed] at hnone
    exact absurd (hnone r hr) hsome

/-- A match of everything to the line feed is a run, and it goes on in the longer text. -/
theorem match_at_last (h : LineBefore cs z) {mode : Mode}
    (hlen : (matchAt mode cs).length = cs.length) :
    ∃ c n, (c = .whitespace ∨ c = .string) ∧ matchAt mode cs = ⟨cs.length, .emit c⟩ ∧
      matchAt mode (cs ++ z) = ⟨n, .emit c⟩ ∧ cs.length ≤ n := by
  obtain ⟨c, hc, hact⟩ := h.action_of_whole hlen
  have hgrown : ∃ n, matchAt mode (cs ++ z) = ⟨n, (matchAt mode cs).action⟩ ∧ cs.length ≤ n := by
    apply match_at_transfer
    · exact Nat.le_of_eq hlen.symm
    · intro r hr hn
      rw [hlen] at hn
      -- An open string stops before the line feed, so it is not what took it.
      have hopen : r.pattern ≠ .openString := by
        intro hp
        have hcross := (h.crosses_of_whole hn).1
        rw [hp] at hcross
        cases hcross
      obtain ⟨n, hle, hn'⟩ := (Pattern.grows hopen).grow z hn (Nat.le_refl _)
      exact ⟨n, hn', hle⟩
    · intro r hr hn
      exact h.pattern_none hn
  obtain ⟨n, hn, hle⟩ := hgrown
  rw [hact] at hn
  refine ⟨c, n, hc, ?_, hn, hle⟩
  rw [← hlen, ← hact]

theorem scans {cs z : List Char} (h : LineBefore cs z) (s : ModeStack) :
    ∃ ls s' mid, Scans s cs ls s' mid ∧ Scans s (cs ++ z) ls s' (mid ++ z) ∧ LineBefore mid z ∧
      (matchAt s'.current mid).length = mid.length := by
  by_cases hlen : (matchAt s.current cs).length = cs.length
  · exact ⟨[], s, cs, .done s cs, .done s (cs ++ z), h, hlen⟩
  · have hpos := match_at_pos s.current cs
    have hle := match_at_le s.current h.ne_nil
    have hlt : (matchAt s.current cs).length < cs.length := by omega
    obtain ⟨ls, s', mid, hleft, hright, hmid, hlast⟩ :=
      scans (h.drop hlt) ((matchAt s.current cs).action.modes s)
    rw [← List.drop_append_of_le_length hle] at hright
    have hstep := Scans.step (List.append_ne_nil_of_left_ne_nil h.ne_nil z) (h.match_at hlt) hright
    rw [List.take_append_of_le_length hle] at hstep
    exact ⟨_, s', mid, .step h.ne_nil rfl hleft, hstep, hmid, hlast⟩
termination_by cs.length
decreasing_by
  rw [List.length_drop]
  omega

end LineBefore

theorem byte_length_le_take {w z : List Char} {n : Nat} (hle : w.length ≤ n) :
    byteLength w ≤ byteLength ((w ++ z).take n) := by
  rw [List.take_append, List.take_of_length_le hle, byte_length_append]
  exact Nat.le_add_right _ _

/-- The tokens of a text that ends in a line feed stay when the text goes on, but for the
last one, which may grow. Two single quotes around that line feed are left out: they make a
character of it. -/
theorem lex_append_line (a b : String) (hend : a.toList.getLast? = some '\n')
    (hquote : ¬ (['\'', '\n'] <:+ a.toList ∧ b.toList.head? = some '\'')) :
    ∃ kept last next rest, lex a = kept ++ [last] ∧
      (last.category = .whitespace ∨ last.category = .string) ∧
      lex (a ++ b) = kept ++ next :: rest ∧
      next.start = last.start ∧ next.category = last.category ∧
      a.utf8ByteSize ≤ next.finish := by
  obtain ⟨ls, s, mid, hleft, hright, hmid, hlen⟩ :=
    LineBefore.scans (LineBefore.mk hend hquote) .base
  obtain ⟨c, n, hc, hwhole, hmatch, hle⟩ := hmid.match_at_last hlen
  have hdone : Scans s (mid.drop mid.length) [] s [] := by
    rw [List.drop_length]
    exact .done s []
  have hlast := Scans.emit hmid.ne_nil hwhole hdone
  rw [List.take_length] at hlast
  obtain ⟨ms, s', hms⟩ := Scans.exists_end s ((mid ++ b.toList).drop n)
  have hnext := Scans.emit (List.append_ne_nil_of_left_ne_nil hmid.ne_nil _) hmatch hms
  have hkept : lex a =
      Lexeme.layOut 0 ls ++ [Lexeme.token ⟨mid, c⟩ (0 + byteLength (Lexeme.join ls))] := by
    rw [lex_of_scans (hleft.append hlast), Lexeme.lay_out_append]
    rfl
  rw [← String.toList_append] at hright
  have hgrown := lex_of_scans (hright.append hnext)
  rw [Lexeme.lay_out_append, Lexeme.layOut] at hgrown
  refine ⟨_, _, _, _, hkept, hc, hgrown, rfl, rfl, ?_⟩
  have hbytes := congrArg byteLength hleft.join
  rw [byte_length_append, byte_length_to_list] at hbytes
  have htake := byte_length_le_take (z := b.toList) hle
  show a.utf8ByteSize ≤
    0 + byteLength (Lexeme.join ls) + byteLength ((mid ++ b.toList).take n)
  omega

theorem lex_append_line_string :
    "\"a\\\n".toList.getLast? = some '\n' ∧
    ¬ (['\'', '\n'] <:+ "\"a\\\n".toList ∧ "'b".toList.head? = some '\'') ∧
    ∃ kept last next rest, lex "\"a\\\n" = kept ++ [last] ∧
      (last.category = .whitespace ∨ last.category = .string) ∧
      lex ("\"a\\\n" ++ "'b") = kept ++ next :: rest ∧
      next.start = last.start ∧ next.category = last.category ∧
      "\"a\\\n".utf8ByteSize ≤ next.finish :=
  ⟨by decide, by decide, lex_append_line _ _ (by decide) (by decide)⟩

end ArmTokens
