import ArmTokens.Lexer

/-!
# What one match can be

A match comes from a rule of its mode, or no rule of the mode matches and it is
one invalid character. The lexemes made of a matched text are never empty: only
a quoted escape is cut up, and it has text between its two quotes.
-/

set_option autoImplicit false

namespace ArmTokens

theorem first_match_none_iff {rules : List Rule} {cs : List Char} :
    firstMatch? rules cs = none ↔ ∀ r ∈ rules, r.pattern.matchLength? cs = none := by
  simp only [firstMatch?, List.findSome?_eq_none_iff, Rule.match?, Option.map_eq_none_iff]

theorem match_at_cases (mode : Mode) (cs : List Char) :
    (∃ r ∈ mode.rules, r.pattern.matchLength? cs = some (matchAt mode cs).length ∧
      (matchAt mode cs).action = r.action) ∨
    ((∀ r ∈ mode.rules, r.pattern.matchLength? cs = none) ∧
      matchAt mode cs = ⟨1, .emit .invalid⟩) := by
  unfold matchAt
  cases h : firstMatch? mode.rules cs with
  | some m =>
    obtain ⟨r, hr, hm⟩ := List.exists_of_findSome?_eq_some h
    obtain ⟨n, hn, rfl⟩ := Option.map_eq_some_iff.mp hm
    exact .inl ⟨r, hr, hn, rfl⟩
  | none => exact .inr ⟨first_match_none_iff.mp h, rfl⟩

theorem first_match_take_succ {rules : List Rule} {cs : List Char} {k : Nat} {r : Rule}
    (hbefore : firstMatch? (rules.take k) cs = none) (hr : rules[k]? = some r)
    (hn : r.pattern.matchLength? cs = none) : firstMatch? (rules.take (k + 1)) cs = none := by
  rw [List.take_add_one, hr, firstMatch?, List.findSome?_append, ← firstMatch?, hbefore,
    Option.none_or, Option.toList_some, List.findSome?_singleton, Rule.match?, hn]
  rfl

/-- The rule at the place decides when none before it matches. -/
theorem match_at_of_rule {mode : Mode} {cs : List Char} {k n : Nat} {r : Rule}
    (hbefore : firstMatch? (mode.rules.take k) cs = none) (hr : mode.rules[k]? = some r)
    (hn : r.pattern.matchLength? cs = some n) : matchAt mode cs = ⟨n, r.action⟩ := by
  obtain ⟨hk, rfl⟩ := List.getElem?_eq_some_iff.mp hr
  have hfirst : firstMatch? mode.rules cs = some ⟨n, mode.rules[k].action⟩ := by
    conv => lhs; rw [← List.take_append_drop k mode.rules]
    rw [firstMatch?, List.findSome?_append, ← firstMatch?, hbefore, Option.none_or,
      List.drop_eq_getElem_cons hk, List.findSome?_cons, Rule.match?, hn]
    rfl
  rw [matchAt, hfirst]
  rfl

theorem exists_line_end_rule (mode : Mode) {c : Char} (hc : isLineEnd c = true) (cs : List Char) :
    ∃ r ∈ mode.rules, r.pattern.matchLength? (c :: cs) ≠ none := by
  have hrun : ∀ p : Char → Bool, p '\n' = true → p '\r' = true → runLength? p (c :: cs) ≠ none := by
    intro p hfeed hreturn
    have hp : p c = true := by
      rcases is_line_end_iff.mp hc with rfl | rfl
      · exact hfeed
      · exact hreturn
    rw [runLength?, runLength, List.takeWhile_cons_of_pos hp]
    exact Option.some_ne_none _
  cases mode with
  | root => exact ⟨⟨.whitespace, .emit .whitespace⟩, by decide, hrun isBlank rfl rfl⟩
  | string => exact ⟨⟨.stringText, .emit .string⟩, by decide, hrun isStringText rfl rfl⟩
  | whitespace => exact ⟨⟨.whitespace, .emit .whitespace⟩, by decide, hrun isBlank rfl rfl⟩

theorem rule_of_quoted {mode : Mode} {r : Rule} (hr : r ∈ mode.rules) {quote body : Category}
    (h : r.action = .quoted quote body) : r.pattern = .charEscape := by
  have hall : ∀ mode : Mode, ∀ r ∈ mode.rules,
      (match r.action with | .quoted _ _ => r.pattern == .charEscape | _ => true) = true := by
    intro mode
    cases mode <;> decide
  have hmode := hall mode r hr
  rw [h] at hmode
  exact beq_iff_eq.mp hmode

theorem quoted_lexemes (quote body : Category) (inner : List Char) :
    Action.lexemes (.quoted quote body) ('\'' :: (inner ++ ['\''])) =
      [⟨['\''], quote⟩, ⟨inner, body⟩, ⟨['\''], quote⟩] := by
  simp [Action.lexemes]

/-- The categories that the lexemes of an action may have. -/
def Action.categories : Action → List Category
  | .emit c => [c]
  | .word => [.keyword, .identifier]
  | .symbols => [.operatorSymbol, .operatorOther]
  | .bracket => [.bracketCurly, .bracketSquare, .bracketParenthesis]
  | .quoted quote body => [quote, body]
  | .enter c _ => [c]
  | .leave c => [c]

theorem category_mem {a : Action} {text : List Char} {l : Lexeme} (hl : l ∈ a.lexemes text) :
    l.category ∈ a.categories := by
  cases a with
  | quoted quote body =>
    simp only [Action.lexemes, List.mem_cons, List.not_mem_nil, or_false] at hl
    rcases hl with rfl | rfl | rfl <;> simp [Action.categories]
  | word =>
    rw [List.mem_singleton.mp hl, wordCategory]
    split <;> simp [Action.categories]
  | symbols =>
    rw [List.mem_singleton.mp hl]
    unfold symbolCategory
    split <;> simp [Action.categories]
  | bracket =>
    rw [List.mem_singleton.mp hl]
    unfold bracketCategory
    split <;> simp [Action.categories]
  | emit c => simp [List.mem_singleton.mp hl, Action.categories]
  | enter c m => simp [List.mem_singleton.mp hl, Action.categories]
  | leave c => simp [List.mem_singleton.mp hl, Action.categories]

theorem char_escape_text {cs : List Char} {n : Nat} (h : charEscapeLength? cs = some n) :
    ∃ body, body ≠ [] ∧ cs.take n = '\'' :: (body ++ ['\'']) := by
  unfold charEscapeLength? at h
  split at h
  · next cs =>
    obtain ⟨m, hm, h⟩ := Option.bind_eq_some_iff.mp h
    have hb := escape_length_bounds hm
    simp only [Option.ite_none_right_eq_some, Option.some.injEq] at h
    obtain ⟨hclose, rfl⟩ := h
    obtain ⟨rest, hrest⟩ := List.head?_eq_some_iff.mp hclose
    refine ⟨cs.take m, ?_, ?_⟩
    · intro hnil
      have := congrArg List.length hnil
      simp only [List.length_take, List.length_nil] at this
      omega
    · rw [show m + 2 = m + 1 + 1 by rfl, List.take_succ_cons, List.take_add, hrest]
      rfl
  · simp at h

theorem quoted_text {mode : Mode} {cs : List Char} {quote body : Category}
    (h : (matchAt mode cs).action = .quoted quote body) :
    ∃ inner, inner ≠ [] ∧ cs.take (matchAt mode cs).length = '\'' :: (inner ++ ['\'']) := by
  rcases match_at_cases mode cs with ⟨r, hr, hlen, hact⟩ | ⟨_, hm⟩
  · rw [rule_of_quoted hr (hact.symm.trans h)] at hlen
    exact char_escape_text hlen
  · rw [hm] at h
    simp at h

theorem lexeme_text_ne_nil {mode : Mode} {cs : List Char} (hcs : cs ≠ []) {l : Lexeme}
    (hl : l ∈ (matchAt mode cs).action.lexemes (cs.take (matchAt mode cs).length)) :
    l.text ≠ [] := by
  have hpos := match_at_pos mode cs
  have htext : cs.take (matchAt mode cs).length ≠ [] := by
    intro h
    rcases List.take_eq_nil_iff.mp h with h | h
    · omega
    · exact hcs h
  cases ha : (matchAt mode cs).action with
  | quoted quote body =>
    obtain ⟨inner, hne, hin⟩ := quoted_text ha
    rw [ha, hin] at hl
    simp [Action.lexemes] at hl
    rcases hl with rfl | rfl | rfl <;> simp [hne]
  | _ =>
    rw [ha] at hl
    simp only [Action.lexemes, List.mem_singleton] at hl
    rw [hl]
    exact htext

end ArmTokens
