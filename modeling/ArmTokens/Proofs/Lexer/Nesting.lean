import ArmTokens.Proofs.Lexer.LayOut
import ArmTokens.Proofs.Lexer.Locality
import ArmTokens.Proofs.Pattern.Quoted

/-!
# Modes and quotes

What a match can be in each of the two modes that a run gets to. Only the quotes
of strings change the mode, so the last of them tells which mode it is, and
tokens wait only outside strings.
-/

set_option autoImplicit false

namespace ArmTokens

namespace Category

def isAlone : Category → Bool
  | .string | .stringEscape | .stringQuoteOpen | .stringQuoteClose => false
  | _ => true

def isBetween : Category → Bool
  | .string | .stringEscape | .stringEscapeInvalid | .invalid => true
  | _ => false

def isStringQuote : Category → Bool
  | .stringQuoteOpen | .stringQuoteClose => true
  | _ => false

theorem not_quote_of_alone {c : Category} (h : c.isAlone = true) : c.isStringQuote = false := by
  cases c <;> first | rfl | cases h

theorem not_quote_of_between {c : Category} (h : c.isBetween = true) : c.isStringQuote = false := by
  cases c <;> first | rfl | cases h

end Category

def Action.isPlain : Action → Bool
  | .emit _ | .word | .symbols | .bracket => true
  | _ => false

theorem plain_lexemes {a : Action} (h : a.isPlain = true) (text : List Char) :
    ∃ c ∈ a.categories, a.lexemes text = [⟨text, c⟩] := by
  have hone : ∃ c, a.lexemes text = [⟨text, c⟩] := by
    cases a <;> first | exact ⟨_, rfl⟩ | cases h
  obtain ⟨c, hc⟩ := hone
  have hmem : (⟨text, c⟩ : Lexeme) ∈ a.lexemes text := by
    rw [hc]
    exact List.mem_cons_self
  exact ⟨c, category_mem hmem, hc⟩

theorem plain_modes {a : Action} (h : a.isPlain = true) (s : ModeStack) : a.modes s = s := by
  cases a <;> first | rfl | cases h

/-- What a match outside strings makes of its text. -/
inductive RootStep (text : List Char) (a : Action) : Prop
  | alone (c : Category) : a.lexemes text = [⟨text, c⟩] → c.isAlone = true →
      (c = .char → 3 ≤ text.length) → (∀ s, a.modes s = s) → RootStep text a
  | quoted (inner : List Char) : a = .quoted .char .stringEscape →
      text = '\'' :: (inner ++ ['\'']) → RootStep text a
  | opens : a = .enter .stringQuoteOpen .string → RootStep text a

inductive StringStep (text : List Char) (a : Action) : Prop
  | between (c : Category) : a.lexemes text = [⟨text, c⟩] → c.isBetween = true →
      (∀ s, a.modes s = s) → StringStep text a
  | closes : a = .leave .stringQuoteClose → StringStep text a

theorem root_step (cs : List Char) :
    RootStep (cs.take (matchAt .root cs).length) (matchAt .root cs).action := by
  have hall : ∀ r ∈ Mode.root.rules, r.action = .quoted .char .stringEscape ∨
      r.action = .enter .stringQuoteOpen .string ∨
      (r.action.isPlain = true ∧ ∀ c ∈ r.action.categories,
        c.isAlone = true ∧ (c = .char → r.pattern = .charLiteral)) := by
    decide
  rcases match_at_cases .root cs with ⟨r, hr, hn, hact⟩ | ⟨_, hm⟩
  · rcases hall r hr with hq | hopen | ⟨hplain, hcat⟩
    · obtain ⟨inner, _, htext⟩ := quoted_text (hact.trans hq)
      exact .quoted inner (hact.trans hq) htext
    · exact .opens (hact.trans hopen)
    · rw [← hact] at hplain hcat
      obtain ⟨c, hc, hlex⟩ := plain_lexemes hplain (cs.take (matchAt .root cs).length)
      refine .alone c hlex (hcat c hc).1 ?_ (plain_modes hplain)
      intro hchar
      rw [(hcat c hc).2 hchar] at hn
      obtain ⟨d, tail, htext, hthree⟩ := char_literal_some hn
      rw [hthree, htext]
      exact Nat.le_refl 3
  · rw [hm]
    exact .alone .invalid rfl rfl (fun h => by cases h) fun _ => rfl

theorem string_step (cs : List Char) :
    StringStep (cs.take (matchAt .string cs).length) (matchAt .string cs).action := by
  have hall : ∀ r ∈ Mode.string.rules, r.action = .leave .stringQuoteClose ∨
      (r.action.isPlain = true ∧ ∀ c ∈ r.action.categories, c.isBetween = true) := by
    decide
  rcases match_at_cases .string cs with ⟨r, hr, _, hact⟩ | ⟨_, hm⟩
  · rcases hall r hr with hclose | ⟨hplain, hcat⟩
    · exact .closes (hact.trans hclose)
    · rw [← hact] at hplain hcat
      obtain ⟨c, hc, hlex⟩ := plain_lexemes hplain (cs.take (matchAt .string cs).length)
      exact .between c hlex (hcat c hc) (plain_modes hplain)
  · rw [hm]
    exact .between .invalid rfl rfl fun _ => rfl

def lastQuote (cats : List Category) : Option Category :=
  (cats.filter Category.isStringQuote).getLast?

theorem last_quote_append (cats : List Category) {others : List Category}
    (h : ∀ c ∈ others, c.isStringQuote = false) : lastQuote (cats ++ others) = lastQuote cats := by
  have hnone : others.filter Category.isStringQuote = [] := by
    apply List.filter_eq_nil_iff.mpr
    intro c hc
    rw [h c hc]
    decide
  rw [lastQuote, List.filter_append, hnone, List.append_nil, lastQuote]

theorem last_quote_concat (cats : List Category) {c : Category} (h : c.isStringQuote = true) :
    lastQuote (cats ++ [c]) = some c := by
  rw [lastQuote, List.filter_append, List.filter_cons_of_pos h, List.filter_nil]
  exact List.getLast?_concat

/-- The stack is the bottom alone or, behind an opening quote, one string on it. -/
def ModeStack.ToldBy (s : ModeStack) (cats : List Category) : Prop :=
  (s = .base ∧ lastQuote cats ≠ some .stringQuoteOpen) ∨
  (s = .inString ∧ lastQuote cats = some .stringQuoteOpen)

theorem ModeStack.ToldBy.step {s : ModeStack} {cats : List Category} (h : s.ToldBy cats)
    (cs : List Char) :
    ((matchAt s.current cs).action.modes s).ToldBy (cats ++
      ((matchAt s.current cs).action.lexemes (cs.take (matchAt s.current cs).length)).map
        Lexeme.category) := by
  rcases h with ⟨rfl, hlast⟩ | ⟨rfl, hlast⟩
  · rw [ModeStack.current_base]
    cases root_step cs with
    | alone c hlex halone _ hmodes =>
      rw [hlex, hmodes]
      refine .inl ⟨rfl, ?_⟩
      rwa [last_quote_append]
      simpa using Category.not_quote_of_alone halone
    | quoted inner hact htext =>
      rw [hact, htext, quoted_lexemes]
      refine .inl ⟨rfl, ?_⟩
      rwa [last_quote_append]
      simp [Category.isStringQuote]
    | opens hact =>
      rw [hact]
      exact .inr ⟨rfl, last_quote_concat cats rfl⟩
  · rw [show ModeStack.inString.current = .string from rfl]
    cases string_step cs with
    | between c hlex hbetween hmodes =>
      rw [hlex, hmodes]
      refine .inr ⟨rfl, ?_⟩
      rwa [last_quote_append]
      simpa using Category.not_quote_of_between hbetween
    | closes hact =>
      rw [hact]
      refine .inl ⟨rfl, ?_⟩
      have hclose := last_quote_concat cats (c := .stringQuoteClose) rfl
      intro hopen
      cases hclose.symm.trans hopen

theorem Scans.told {s s' : ModeStack} {cs rest : List Char} {ls : List Lexeme}
    (h : Scans s cs ls s' rest) {cats : List Category} (hs : s.ToldBy cats) :
    s'.ToldBy (cats ++ ls.map Lexeme.category) := by
  induction h generalizing cats with
  | done s cs =>
    rw [List.map_nil, List.append_nil]
    exact hs
  | @step s s' cs rest ls m hne hm htail ih =>
    subst hm
    have hrun := ih (hs.step cs)
    rwa [List.append_assoc, ← List.map_append] at hrun

theorem categories_lay_out (p : Nat) (ls : List Lexeme) :
    (Lexeme.layOut p ls).map Token.category = ls.map Lexeme.category := by
  induction ls generalizing p with
  | nil => rfl
  | cons l ls ih =>
    rw [Lexeme.layOut, List.map_cons, List.map_cons, ih]
    rfl

/-- Tokens wait only outside strings, and no quote of a string is among them. -/
structure Lexer.WaitsOutside (lx : Lexer) : Prop where
  shallow : lx.modes.Shallow
  outside : lx.waiting ≠ [] → lx.modes = .base
  no_quote : ∀ t ∈ lx.waiting, t.category.isStringQuote = false

theorem matched_tail {lx : Lexer} {t : Token} {us : List Token} (hs : lx.modes.Shallow)
    (h : lx.matched = t :: us) :
    us = [] ∨ (lx.passed.modes = .base ∧ us.map Token.category = [.stringEscape, .char]) := by
  obtain ⟨rest, position, modes, waiting⟩ := lx
  have hcats := congrArg (List.map Token.category) h
  rw [Lexer.matched, categories_lay_out] at hcats
  rcases hs with hs | hs
  · obtain rfl : modes = .base := hs
    rw [Lexer.mode, ModeStack.current_base] at hcats
    cases root_step rest with
    | alone c hlex _ _ _ =>
      rw [hlex] at hcats
      exact .inl (List.map_eq_nil_iff.mp (List.cons.inj hcats).2.symm)
    | quoted inner hact htext =>
      rw [hact, htext, quoted_lexemes] at hcats
      refine .inr ⟨?_, (List.cons.inj hcats).2.symm⟩
      rw [Lexer.passed, Lexer.mode, ModeStack.current_base, hact]
      rfl
    | opens hact =>
      rw [hact] at hcats
      exact .inl (List.map_eq_nil_iff.mp (List.cons.inj hcats).2.symm)
  · obtain rfl : modes = .inString := hs
    rw [Lexer.mode, show ModeStack.inString.current = .string from rfl] at hcats
    cases string_step rest with
    | between c hlex _ _ =>
      rw [hlex] at hcats
      exact .inl (List.map_eq_nil_iff.mp (List.cons.inj hcats).2.symm)
    | closes hact =>
      rw [hact] at hcats
      exact .inl (List.map_eq_nil_iff.mp (List.cons.inj hcats).2.symm)

theorem Lexer.WaitsOutside.next {lx mid : Lexer} {t : Token} (h : lx.WaitsOutside)
    (hn : lx.next? = some (t, mid)) : mid.WaitsOutside := by
  rcases next_cases hn with ⟨us, hw, rfl⟩ | ⟨_, _, us, hus, rfl⟩
  · have hout : lx.modes = .base := h.outside (by rw [hw]; exact List.cons_ne_nil t us)
    refine ⟨h.shallow, fun _ => hout, ?_⟩
    intro u hu
    exact h.no_quote u (by rw [hw]; exact List.mem_cons_of_mem t hu)
  · have hshallow : lx.passed.modes.Shallow := h.shallow.step lx.rest
    rcases matched_tail h.shallow hus with rfl | ⟨hbase, hcats⟩
    · exact ⟨hshallow, fun hne => absurd rfl hne, fun _ hu => nomatch hu⟩
    · refine ⟨hshallow, fun _ => hbase, ?_⟩
      intro u hu
      have hmem := List.mem_map_of_mem (f := Token.category) hu
      rw [hcats] at hmem
      revert hmem
      generalize u.category = c
      revert c
      decide

theorem Yields.waits_outside {lx last : Lexer} {ts : List Token} (h : Yields lx ts last)
    (hlx : lx.WaitsOutside) : last.WaitsOutside := by
  induction h with
  | done => exact hlx
  | next hn _ ih => exact ih (hlx.next hn)

theorem waits_outside_of_string (text : String) : (Lexer.ofString text).WaitsOutside :=
  ⟨.inl rfl, fun hne => absurd rfl hne, fun _ ht => nomatch ht⟩

/-- The last quote of a string that was handed out tells the stack. -/
theorem Yields.told {text : String} {ts : List Token} {last : Lexer}
    (h : Yields (Lexer.ofString text) ts last) : last.modes.ToldBy (ts.map Token.category) := by
  have hbase : (Lexer.ofString text).modes.ToldBy [] := .inl ⟨rfl, nofun⟩
  obtain ⟨ls, htokens, hscans, _⟩ := h.scans
  have htold := hscans.told hbase
  have hwaits := h.waits_outside (waits_outside_of_string text)
  have hcats := congrArg (List.map Token.category) htokens
  rw [Lexer.ofString, List.nil_append, categories_lay_out, List.map_append] at hcats
  rw [List.nil_append, ← hcats] at htold
  have hwaiting : ∀ c ∈ last.waiting.map Token.category, c.isStringQuote = false := by
    intro c hc
    obtain ⟨t, ht, rfl⟩ := List.mem_map.mp hc
    exact hwaits.no_quote t ht
  rwa [ModeStack.ToldBy, last_quote_append _ hwaiting] at htold

end ArmTokens
