import ArmTokens.Proofs.Lexer.Match

/-!
# Runs of the lexer

A run is told in two ways: by the tokens that calls of `next?` hand out, and by
the lexemes that whole matches cut off. The second has no offsets and no waiting
tokens, and every run of the first kind is one of the second laid out.
-/

set_option autoImplicit false

namespace ArmTokens

/-- Calls of `next?` that each hand out a token. -/
inductive Yields : Lexer → List Token → Lexer → Prop
  | done (lx : Lexer) : Yields lx [] lx
  | next {lx mid last : Lexer} {t : Token} {ts : List Token} :
      lx.next? = some (t, mid) → Yields mid ts last → Yields lx (t :: ts) last

/-- Matches that lead from a mode stack and a text to another stack and what is
left of the text. -/
inductive Scans : ModeStack → List Char → List Lexeme → ModeStack → List Char → Prop
  | done (s : ModeStack) (cs : List Char) : Scans s cs [] s cs
  | step {s s' : ModeStack} {cs rest : List Char} {ls : List Lexeme} {m : Match} :
      cs ≠ [] → matchAt s.current cs = m →
      Scans (m.action.modes s) (cs.drop m.length) ls s' rest →
      Scans s cs (m.action.lexemes (cs.take m.length) ++ ls) s' rest

theorem join_match (a : Action) (text : List Char) (ls : List Lexeme) :
    Lexeme.join (a.lexemes text ++ ls) = text ++ Lexeme.join ls := by
  rw [Lexeme.join, List.flatMap_append]
  exact congrArg (· ++ Lexeme.join ls) (a.join_lexemes text)

namespace Yields

theorem append {lx mid last : Lexer} {ts us : List Token} (h : Yields lx ts mid)
    (h' : Yields mid us last) : Yields lx (ts ++ us) last := by
  induction h with
  | done => exact h'
  | next hn _ ih => exact .next hn (ih h')

theorem tokens {lx last : Lexer} {ts : List Token} (h : Yields lx ts last) :
    lx.tokens = ts ++ last.tokens := by
  induction h with
  | done => rfl
  | next hn _ ih => rw [Lexer.tokens_of_next_eq_some hn, ih, List.cons_append]

theorem at_end {lx last : Lexer} {ts : List Token} (h : Yields lx ts last) :
    lx.atEnd = last.atEnd := by
  induction h with
  | done => rfl
  | next hn _ ih =>
    rw [← ih, Lexer.atEnd]
    split
    · next h' => simp [hn] at h'
    · next h' =>
      obtain ⟨rfl, rfl⟩ := Prod.mk.inj (Option.some.inj (h'.symm.trans hn))
      rfl

theorem take (n : Nat) (lx : Lexer) : Yields lx (lx.take n).1 (lx.take n).2 := by
  induction n generalizing lx with
  | zero => exact .done lx
  | succ n ih =>
    rw [Lexer.take]
    cases hn : lx.next? with
    | none => exact .done lx
    | some p => exact .next hn (ih p.2)

theorem tokens_eq_take {n : Nat} {lx : Lexer} (h : (lx.take n).2.next? = none) :
    lx.tokens = (lx.take n).1 := by
  rw [(take n lx).tokens, Lexer.tokens_of_next_eq_none h, List.append_nil]

end Yields

namespace Scans

theorem append {s₁ s₂ s₃ : ModeStack} {cs mid rest : List Char} {ls ms : List Lexeme}
    (h : Scans s₁ cs ls s₂ mid) (h' : Scans s₂ mid ms s₃ rest) :
    Scans s₁ cs (ls ++ ms) s₃ rest := by
  induction h with
  | done => exact h'
  | step hne hm _ ih =>
    rw [List.append_assoc]
    exact .step hne hm (ih h')

theorem emit {s s' : ModeStack} {cs rest : List Char} {ls : List Lexeme} {n : Nat} {c : Category}
    (hne : cs ≠ []) (hm : matchAt s.current cs = ⟨n, .emit c⟩)
    (h : Scans s (cs.drop n) ls s' rest) : Scans s cs (⟨cs.take n, c⟩ :: ls) s' rest :=
  .step hne hm h

theorem join {s s' : ModeStack} {cs rest : List Char} {ls : List Lexeme}
    (h : Scans s cs ls s' rest) : Lexeme.join ls ++ rest = cs := by
  induction h with
  | done => rfl
  | step _ _ _ ih => rw [join_match, List.append_assoc, ih, List.take_append_drop]

theorem length_le {s s' : ModeStack} {cs rest : List Char} {ls : List Lexeme}
    (h : Scans s cs ls s' rest) : rest.length ≤ cs.length := by
  rw [← h.join, List.length_append]
  omega

theorem forall_lexeme {P : Lexeme → Prop}
    (hmatch : ∀ mode cs, cs ≠ [] → ∀ l ∈ (matchAt mode cs).action.lexemes
      (cs.take (matchAt mode cs).length), P l) {s s' : ModeStack} {cs rest : List Char}
    {ls : List Lexeme} (h : Scans s cs ls s' rest) : ∀ l ∈ ls, P l := by
  induction h with
  | done => exact List.forall_mem_nil _
  | step hne hm _ ih =>
    subst hm
    intro l hl
    rcases List.mem_append.mp hl with hl | hl
    · exact hmatch _ _ hne l hl
    · exact ih l hl

theorem text_ne_nil {s s' : ModeStack} {cs rest : List Char} {ls : List Lexeme}
    (h : Scans s cs ls s' rest) : ∀ l ∈ ls, l.text ≠ [] :=
  h.forall_lexeme fun _ _ hne _ hl => lexeme_text_ne_nil hne hl

theorem exists_end (s : ModeStack) (cs : List Char) : ∃ ls s', Scans s cs ls s' [] := by
  by_cases hcs : cs = []
  · exact ⟨[], s, hcs ▸ .done s cs⟩
  · have hpos := match_at_pos s.current cs
    have hlen := List.length_pos_iff.mpr hcs
    obtain ⟨ls, s', h⟩ := exists_end ((matchAt s.current cs).action.modes s)
      (cs.drop (matchAt s.current cs).length)
    exact ⟨_, s', .step hcs rfl h⟩
termination_by cs.length
decreasing_by
  rw [List.length_drop]
  omega

end Scans

theorem drain (lx : Lexer) : Yields lx lx.waiting { lx with waiting := [] } := by
  obtain ⟨rest, position, modes, waiting⟩ := lx
  induction waiting with
  | nil => exact .done _
  | cons t ts ih => exact .next (by simp [Lexer.next?, Lexer.pop?]) ih

def Lexer.passed (lx : Lexer) : Lexer :=
  let m := matchAt lx.mode lx.rest
  ⟨lx.rest.drop m.length, lx.position + byteLength (lx.rest.take m.length),
    m.action.modes lx.modes, []⟩

def Lexer.matched (lx : Lexer) : List Token :=
  let m := matchAt lx.mode lx.rest
  Lexeme.layOut lx.position (m.action.lexemes (lx.rest.take m.length))

theorem step_eq {lx : Lexer} (hne : lx.rest ≠ []) :
    lx.step? = some { lx.passed with waiting := lx.waiting ++ lx.matched } := by
  rw [Lexer.step?, if_neg (by simpa using hne)]
  rfl

theorem matched_ne_nil (lx : Lexer) : lx.matched ≠ [] := by
  apply List.ne_nil_of_length_pos
  rw [Lexer.matched, Lexeme.length_lay_out]
  exact Action.length_lexemes_pos _ _

theorem yields_matched (lx : Lexer) (hw : lx.waiting = []) (hne : lx.rest ≠ []) :
    Yields lx lx.matched lx.passed := by
  obtain ⟨t, ts, hts⟩ := List.exists_cons_of_ne_nil (matched_ne_nil lx)
  have hnext : lx.next? = some (t, { lx.passed with waiting := ts }) := by
    simp [Lexer.next?, hw, step_eq hne, hts, Lexer.pop?]
  rw [hts]
  exact .next hnext (drain _)

theorem next_cases {lx mid : Lexer} {t : Token} (h : lx.next? = some (t, mid)) :
    (∃ us, lx.waiting = t :: us ∧ mid = { lx with waiting := us }) ∨
    (lx.waiting = [] ∧ lx.rest ≠ [] ∧
      ∃ us, lx.matched = t :: us ∧ mid = { lx.passed with waiting := us }) := by
  cases hw : lx.waiting with
  | cons u us =>
    simp [Lexer.next?, hw, Lexer.pop?] at h
    exact .inl ⟨us, by rw [h.1], h.2.symm⟩
  | nil =>
    have hne : lx.rest ≠ [] := by
      intro hnil
      simp [Lexer.next?, hw, Lexer.step?, hnil] at h
    obtain ⟨u, us, hus⟩ := List.exists_cons_of_ne_nil (matched_ne_nil lx)
    simp [Lexer.next?, hw, step_eq hne, hus, Lexer.pop?] at h
    exact .inr ⟨rfl, hne, us, by rw [hus, h.1], h.2.symm⟩

theorem Scans.yields {s s' : ModeStack} {cs rest : List Char} {ls : List Lexeme}
    (h : Scans s cs ls s' rest) (position : Nat) :
    Yields ⟨cs, position, s, []⟩ (Lexeme.layOut position ls)
      ⟨rest, position + byteLength (Lexeme.join ls), s', []⟩ := by
  induction h generalizing position with
  | done => exact .done _
  | @step s s' cs rest ls m hne hm _ ih =>
    subst hm
    have hfirst := yields_matched ⟨cs, position, s, []⟩ rfl hne
    rw [Lexeme.lay_out_append, Action.join_lexemes, join_match, byte_length_append, ← Nat.add_assoc]
    exact hfirst.append (ih _)

/-- A run by tokens is a run by matches, but for the tokens that wait at its two ends. -/
theorem Yields.scans {lx last : Lexer} {ts : List Token} (h : Yields lx ts last) :
    ∃ ls, ts ++ last.waiting = lx.waiting ++ Lexeme.layOut lx.position ls ∧
      Scans lx.modes lx.rest ls last.modes last.rest ∧
      last.position = lx.position + byteLength (Lexeme.join ls) := by
  induction h with
  | done lx => exact ⟨[], by simp [Lexeme.layOut], .done _ _, by simp [Lexeme.join, byteLength]⟩
  | @next lx mid last t ts hn _ ih =>
    obtain ⟨ls, htokens, hscans, hpos⟩ := ih
    rcases next_cases hn with ⟨us, hw, rfl⟩ | ⟨hw, hne, us, hus, rfl⟩
    · exact ⟨ls, by rw [hw, List.cons_append, htokens, List.cons_append], hscans, hpos⟩
    · refine ⟨_, ?_, .step hne rfl hscans, ?_⟩
      · rw [hw, Lexeme.lay_out_append, Action.join_lexemes, List.nil_append, List.cons_append,
          htokens, ← List.cons_append, ← hus]
        rfl
      · rw [hpos, join_match, byte_length_append, ← Nat.add_assoc]
        rfl

/-- The tokens of a text from any place where none waits are its lexemes laid out. -/
theorem tokens_of_scans {s s' : ModeStack} {cs : List Char} {ls : List Lexeme}
    (h : Scans s cs ls s' []) (position : Nat) :
    (Lexer.mk cs position s []).tokens = Lexeme.layOut position ls := by
  have hend : (Lexer.mk [] (position + byteLength (Lexeme.join ls)) s' []).tokens = [] :=
    Lexer.tokens_of_next_eq_none rfl
  rw [(h.yields position).tokens, hend, List.append_nil]

theorem lex_of_scans {text : String} {s : ModeStack} {ls : List Lexeme}
    (h : Scans .base text.toList ls s []) : lex text = Lexeme.layOut 0 ls :=
  tokens_of_scans h 0

theorem at_end_of_scans {text : String} {s : ModeStack} {ls : List Lexeme}
    (h : Scans .base text.toList ls s []) : (Lexer.ofString text).atEnd.modes = s := by
  rw [Lexer.ofString, (h.yields 0).at_end, Lexer.atEnd]
  rfl

/-- Two runs from one place: the one that consumes less is the start of the other. -/
theorem Scans.rest {s s₁ s₂ : ModeStack} {cs rest₁ rest₂ : List Char} {ls₁ ls₂ : List Lexeme}
    (h₁ : Scans s cs ls₁ s₁ rest₁) (h₂ : Scans s cs ls₂ s₂ rest₂)
    (hle : rest₂.length ≤ rest₁.length) :
    ∃ ls, ls₂ = ls₁ ++ ls ∧ Scans s₁ rest₁ ls s₂ rest₂ := by
  induction h₁ generalizing ls₂ with
  | done => exact ⟨ls₂, rfl, h₂⟩
  | @step s s₁ cs rest₁ ls₁ m hne hm htail ih =>
    cases h₂ with
    | done =>
      have hpos : 0 < m.length := hm ▸ match_at_pos _ _
      have hlen := List.length_pos_iff.mpr hne
      have htail := htail.length_le
      rw [List.length_drop] at htail
      omega
    | @step _ _ _ _ ls₂ m' _ hm' htail' =>
      obtain rfl : m = m' := hm.symm.trans hm'
      obtain ⟨ls, rfl, hls⟩ := ih htail' hle
      exact ⟨ls, by rw [List.append_assoc], hls⟩

end ArmTokens
