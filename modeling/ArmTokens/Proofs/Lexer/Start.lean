import ArmTokens.Proofs.Lexer.LayOut
import ArmTokens.Proofs.Lexer.Locality

/-!
# Where matches start

In a run over a text a match starts wherever no token waits and some text is
left. What the match makes of its text is handed out before anything else, and
every token of the text is handed out by the match that made it.
-/

set_option autoImplicit false

namespace ArmTokens

/-- In the run over the text a match of the mode starts here. -/
structure MatchStarts (text : String) (mode : Mode) (lx : Lexer) : Prop where
  reached : ∃ before, Yields (Lexer.ofString text) before lx
  none_waits : lx.waiting = []
  in_mode : lx.mode = mode
  text_left : lx.rest ≠ []

theorem match_starts_first {text : String} (h : text.toList ≠ []) :
    MatchStarts text .root (Lexer.ofString text) := ⟨⟨[], .done _⟩, rfl, rfl, h⟩

/-- The match that starts here hands out these lexemes, and no token waits behind them. -/
def Lexer.Makes (lx : Lexer) (ls : List Lexeme) : Prop :=
  Yields lx (Lexeme.layOut lx.position ls) lx.passed

theorem lay_out_inj {p : Nat} {ls ms : List Lexeme} (h : Lexeme.layOut p ls = Lexeme.layOut p ms) :
    ls = ms := by
  induction ls generalizing p ms with
  | nil =>
    have hlen := congrArg List.length h
    rw [Lexeme.length_lay_out, Lexeme.length_lay_out] at hlen
    exact (List.eq_nil_of_length_eq_zero hlen.symm).symm
  | cons l ls ih =>
    cases ms with
    | nil => cases h
    | cons m ms =>
      obtain ⟨htoken, htail⟩ := List.cons.inj h
      have htext : l.text = m.text := String.ofList_injective (congrArg Token.text htoken)
      have hcategory : l.category = m.category := congrArg Token.category htoken
      have hhead : l = m := by
        cases l
        cases m
        exact (Lexeme.mk.injEq _ _ _ _).mpr ⟨htext, hcategory⟩
      rw [htext] at htail
      rw [hhead, ih htail]

theorem Scans.eq_nil {s s' : ModeStack} {cs : List Char} {ls : List Lexeme}
    (h : Scans s cs ls s' cs) : ls = [] := by
  have hjoin : Lexeme.join ls = [] := List.self_eq_append_left.mp h.join.symm
  cases ls with
  | nil => rfl
  | cons l ls =>
    rw [join_cons] at hjoin
    exact absurd (List.append_eq_nil_iff.mp hjoin).1 (h.text_ne_nil l List.mem_cons_self)

/-- Between two places of a run where no token waits the tokens are settled. -/
theorem Yields.unique {lx last : Lexer} {ts us : List Token} (hw : lx.waiting = [])
    (hlast : last.waiting = []) (ht : Yields lx ts last) (hu : Yields lx us last) : ts = us := by
  obtain ⟨ls, hts, hls, _⟩ := ht.scans
  obtain ⟨ms, hus, hms, _⟩ := hu.scans
  rw [hw, hlast, List.append_nil, List.nil_append] at hts hus
  obtain ⟨behind, rfl, hbehind⟩ := hls.rest hms (Nat.le_refl _)
  rw [hbehind.eq_nil, List.append_nil] at hus
  rw [hts, hus]

namespace MatchStarts

variable {text : String} {mode : Mode} {lx : Lexer}

theorem matched_eq (h : MatchStarts text mode lx) {ls : List Lexeme} (hls : lx.Makes ls) :
    lx.matched = Lexeme.layOut lx.position ls :=
  (yields_matched lx h.none_waits h.text_left).unique h.none_waits rfl hls

theorem makes_iff (h : MatchStarts text mode lx) {ls : List Lexeme} :
    lx.Makes ls ↔
      (matchAt mode lx.rest).action.lexemes (lx.rest.take (matchAt mode lx.rest).length) = ls := by
  rw [← h.in_mode]
  constructor
  · intro hls
    exact lay_out_inj (h.matched_eq hls)
  · rintro rfl
    exact yields_matched lx h.none_waits h.text_left

theorem makes_unique (h : MatchStarts text mode lx) {ls ms : List Lexeme} (hls : lx.Makes ls)
    (hms : lx.Makes ms) : ls = ms := by
  rw [h.makes_iff] at hls hms
  exact hls.symm.trans hms

theorem root_or_string (h : MatchStarts text mode lx) : mode = .root ∨ mode = .string := by
  obtain ⟨before, hrun⟩ := h.reached
  obtain ⟨ls, _, hscans, _⟩ := hrun.scans
  rw [← h.in_mode, Lexer.mode]
  rcases hscans.shallow (.inl rfl) with hbase | hstring
  · exact .inl (congrArg ModeStack.current hbase)
  · exact .inr (congrArg ModeStack.current hstring)

theorem passed (h : MatchStarts text mode lx) (hne : lx.passed.rest ≠ []) :
    MatchStarts text lx.passed.mode lx.passed := by
  obtain ⟨before, hrun⟩ := h.reached
  exact ⟨⟨_, hrun.append (yields_matched lx h.none_waits h.text_left)⟩, rfl, rfl, hne⟩

theorem mem_lex (h : MatchStarts text mode lx) {ls : List Lexeme} (hls : lx.Makes ls) {t : Token}
    (ht : t ∈ Lexeme.layOut lx.position ls) : t ∈ lex text := by
  obtain ⟨before, hrun⟩ := h.reached
  rw [lex, hrun.tokens, Yields.tokens hls]
  exact List.mem_append_right _ (List.mem_append_left _ ht)

end MatchStarts

theorem Scans.token_of_match {s s' : ModeStack} {cs rest : List Char} {ls : List Lexeme}
    (h : Scans s cs ls s' rest) {position : Nat} {t : Token} (ht : t ∈ Lexeme.layOut position ls) :
    ∃ before lx, Yields ⟨cs, position, s, []⟩ before lx ∧ lx.waiting = [] ∧ lx.rest ≠ [] ∧
      t ∈ lx.matched := by
  induction h generalizing position with
  | done => cases ht
  | @step s s' cs rest ls m hne hm _ ih =>
    subst hm
    rw [Lexeme.lay_out_append, Action.join_lexemes] at ht
    rcases List.mem_append.mp ht with ht | ht
    · exact ⟨[], _, .done _, rfl, hne, ht⟩
    · obtain ⟨before, lx, hrun, hlx⟩ := ih ht
      exact ⟨_, lx, (yields_matched ⟨cs, position, s, []⟩ rfl hne).append hrun, hlx⟩

/-- A token of the text comes from a match on the way, and from a lexeme of its text. -/
theorem token_of_match {text : String} {t : Token} (ht : t ∈ lex text) :
    ∃ mode lx l, MatchStarts text mode lx ∧ t ∈ lx.matched ∧
      l ∈ (matchAt mode lx.rest).action.lexemes (lx.rest.take (matchAt mode lx.rest).length) ∧
      t.category = l.category ∧ t.text = String.ofList l.text := by
  obtain ⟨ls, s, hscans⟩ := Scans.exists_end .base text.toList
  rw [lex_of_scans hscans] at ht
  obtain ⟨before, lx, hrun, hw, hne, ht⟩ := hscans.token_of_match ht
  obtain ⟨ls₁, l, ls₂, hls, rfl⟩ := mem_lay_out ht
  have hl : l ∈ ls₁ ++ l :: ls₂ := List.mem_append_right _ List.mem_cons_self
  exact ⟨lx.mode, lx, l, ⟨⟨before, hrun⟩, hw, rfl, hne⟩, ht, hls ▸ hl, rfl, rfl⟩

end ArmTokens
