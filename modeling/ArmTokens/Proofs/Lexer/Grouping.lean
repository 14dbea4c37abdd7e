import ArmTokens.Proofs.Lexer.Nesting

/-!
# How tokens group

Outside strings a token stands by itself, or three of them are a quoted escape.
An opening quote stands with its string up to the closing quote, and a text may
end inside a string. The tokens of a text group in this way, and in no other.
-/

set_option autoImplicit false

namespace ArmTokens

def Token.IsCharQuote (t : Token) : Prop := t.category = .char ∧ t.text = "'"

inductive Group where
  | alone (t : Token)
  | quoted (left body right : Token)
  | string (opening : Token) (body : List Token) (closing : Token)
  deriving DecidableEq, Repr

namespace Group

def tokens : Group → List Token
  | .alone t => [t]
  | .quoted left body right => [left, body, right]
  | .string opening body closing => opening :: (body ++ [closing])

def Valid : Group → Prop
  | .alone t => t.category.isAlone = true ∧ (t.category = .char → 3 ≤ t.text.utf8ByteSize)
  | .quoted left body right =>
    left.IsCharQuote ∧ body.category = .stringEscape ∧ right.IsCharQuote
  | .string opening body closing => opening.category = .stringQuoteOpen ∧
    (∀ t ∈ body, t.category.isBetween = true) ∧ closing.category = .stringQuoteClose

theorem alone_ne_quoted {t left body right : Token} (h : (alone t).Valid)
    (h' : (quoted left body right).Valid) : t ≠ left := by
  rintro rfl
  obtain ⟨hc, htext⟩ := h'.1
  have hlen := h.2 hc
  rw [htext] at hlen
  exact absurd hlen (by decide)

theorem alone_ne_string {t opening closing : Token} {body : List Token} (h : (alone t).Valid)
    (h' : (string opening body closing).Valid) : t ≠ opening := by
  rintro rfl
  have hc := h.1
  rw [h'.1] at hc
  cases hc

theorem quoted_ne_string {left inner right opening closing : Token} {body : List Token}
    (h : (quoted left inner right).Valid) (h' : (string opening body closing).Valid) :
    left ≠ opening := by
  rintro rfl
  have hc := h.1.1
  rw [h'.1] at hc
  cases hc

end Group

/-- Tokens that may stand in a string end at the first one that may not. -/
theorem between_unique {us vs us' vs' : List Token} {c c' : Token}
    (hus : ∀ t ∈ us, t.category.isBetween = true) (hus' : ∀ t ∈ us', t.category.isBetween = true)
    (hc : c.category.isBetween = false) (hc' : c'.category.isBetween = false)
    (h : us ++ c :: vs = us' ++ c' :: vs') : us = us' ∧ c = c' ∧ vs = vs' := by
  induction us generalizing us' with
  | nil =>
    cases us' with
    | nil => exact ⟨rfl, List.cons.inj h⟩
    | cons u us' =>
      obtain ⟨rfl, _⟩ := List.cons.inj h
      rw [hus' c List.mem_cons_self] at hc
      cases hc
  | cons t us ih =>
    cases us' with
    | nil =>
      obtain ⟨rfl, _⟩ := List.cons.inj h
      rw [hus t List.mem_cons_self] at hc'
      cases hc'
    | cons u us' =>
      obtain ⟨rfl, htail⟩ := List.cons.inj h
      obtain ⟨rfl, hrest⟩ := ih (fun t ht => hus t (List.mem_cons_of_mem _ ht))
        (fun t ht => hus' t (List.mem_cons_of_mem _ ht)) htail
      exact ⟨rfl, hrest⟩

theorem not_between_of_close {c : Token} (h : c.category = .stringQuoteClose) :
    c.category.isBetween = false := by
  rw [h]
  rfl

theorem group_unique {g g' : Group} {us us' : List Token} (hg : g.Valid) (hg' : g'.Valid)
    (h : g.tokens ++ us = g'.tokens ++ us') : g = g' ∧ us = us' := by
  cases g with
  | alone t =>
    cases g' with
    | alone t' =>
      obtain ⟨rfl, rfl⟩ := List.cons.inj h
      exact ⟨rfl, rfl⟩
    | quoted => exact absurd (List.cons.inj h).1 (Group.alone_ne_quoted hg hg')
    | string => exact absurd (List.cons.inj h).1 (Group.alone_ne_string hg hg')
  | quoted left body right =>
    cases g' with
    | alone => exact absurd (List.cons.inj h).1.symm (Group.alone_ne_quoted hg' hg)
    | quoted left' body' right' =>
      simp only [Group.tokens, List.cons_append, List.nil_append, List.cons.injEq] at h
      obtain ⟨rfl, rfl, rfl, rfl⟩ := h
      exact ⟨rfl, rfl⟩
    | string => exact absurd (List.cons.inj h).1 (Group.quoted_ne_string hg hg')
  | string opening body closing =>
    cases g' with
    | alone => exact absurd (List.cons.inj h).1.symm (Group.alone_ne_string hg' hg)
    | quoted => exact absurd (List.cons.inj h).1.symm (Group.quoted_ne_string hg' hg)
    | string opening' body' closing' =>
      simp only [Group.tokens, List.cons_append, List.append_assoc, List.cons.injEq] at h
      obtain ⟨rfl, hbody⟩ := h
      obtain ⟨rfl, rfl, rfl⟩ := between_unique hg.2.1 hg'.2.1 (not_between_of_close hg.2.2)
        (not_between_of_close hg'.2.2) hbody
      exact ⟨rfl, rfl⟩

/-- An opening quote that is never closed, with what stands behind it. -/
structure Unclosed where
  opening : Token
  body : List Token
  deriving DecidableEq, Repr

namespace Unclosed

def tokens (u : Unclosed) : List Token := u.opening :: u.body

def Valid (u : Unclosed) : Prop :=
  u.opening.category = .stringQuoteOpen ∧ ∀ t ∈ u.body, t.category.isBetween = true

theorem tokens_ne_group {u : Unclosed} {g : Group} (hu : u.Valid) (hg : g.Valid)
    (us : List Token) : u.tokens ≠ g.tokens ++ us := by
  obtain ⟨opening, body⟩ := u
  intro h
  cases g with
  | alone t =>
    obtain ⟨rfl, _⟩ := List.cons.inj h
    have hc := hg.1
    rw [hu.1] at hc
    cases hc
  | quoted left inner right =>
    obtain ⟨rfl, _⟩ := List.cons.inj h
    cases hg.1.1.symm.trans hu.1
  | string opening' body' closing =>
    obtain ⟨rfl, rfl⟩ := List.cons.inj h
    have hc := hu.2 closing (by simp)
    rw [not_between_of_close hg.2.2] at hc
    cases hc

end Unclosed

structure Grouping where
  groups : List Group
  unclosed : Option Unclosed
  deriving DecidableEq, Repr

namespace Grouping

def tokens (g : Grouping) : List Token :=
  g.groups.flatMap Group.tokens ++ (g.unclosed.map Unclosed.tokens).getD []

structure Valid (g : Grouping) : Prop where
  groups : ∀ h ∈ g.groups, h.Valid
  unclosed : ∀ u ∈ g.unclosed, u.Valid

theorem Valid.cons {g : Group} {r : Grouping} (hg : g.Valid) (hr : r.Valid) :
    Grouping.Valid ⟨g :: r.groups, r.unclosed⟩ := by
  refine ⟨?_, hr.unclosed⟩
  intro h hh
  rcases List.mem_cons.mp hh with rfl | hh
  · exact hg
  · exact hr.groups h hh

theorem tokens_cons (g : Group) (r : Grouping) :
    Grouping.tokens ⟨g :: r.groups, r.unclosed⟩ = g.tokens ++ r.tokens := by
  rw [tokens, List.flatMap_cons, List.append_assoc]
  rfl

theorem unclosed_unique {u v : Option Unclosed}
    (h : Grouping.tokens ⟨[], u⟩ = Grouping.tokens ⟨[], v⟩) : u = v := by
  cases u with
  | none =>
    cases v with
    | none => rfl
    | some v => cases h
  | some u =>
    cases v with
    | none => cases h
    | some v =>
      obtain ⟨opening, body⟩ := u
      obtain ⟨rfl, rfl⟩ := List.cons.inj h
      rfl

theorem unclosed_ne_group {u : Option Unclosed} {g : Group} (hu : ∀ v ∈ u, v.Valid)
    (hg : g.Valid) (us : List Token) : Grouping.tokens ⟨[], u⟩ ≠ g.tokens ++ us := by
  cases u with
  | none =>
    intro h
    cases g <;> cases h
  | some u => exact Unclosed.tokens_ne_group (hu u rfl) hg us

theorem unique {g h : Grouping} (hg : g.Valid) (hh : h.Valid) (heq : g.tokens = h.tokens) :
    g = h := by
  obtain ⟨gs, u⟩ := g
  obtain ⟨hs, v⟩ := h
  induction gs generalizing hs with
  | nil =>
    cases hs with
    | nil =>
      obtain rfl := unclosed_unique heq
      rfl
    | cons h hs =>
      rw [tokens_cons h ⟨hs, v⟩] at heq
      exact absurd heq (unclosed_ne_group hg.unclosed (hh.groups h List.mem_cons_self) _)
  | cons g gs ih =>
    have hgs : Grouping.Valid ⟨gs, u⟩ :=
      ⟨fun k hk => hg.groups k (List.mem_cons_of_mem g hk), hg.unclosed⟩
    rw [tokens_cons g ⟨gs, u⟩] at heq
    cases hs with
    | nil =>
      exact absurd heq.symm (unclosed_ne_group hh.unclosed (hg.groups g List.mem_cons_self) _)
    | cons h hs =>
      rw [tokens_cons h ⟨hs, v⟩] at heq
      obtain ⟨rfl, htail⟩ := group_unique (hg.groups g List.mem_cons_self)
        (hh.groups h List.mem_cons_self) heq
      have hhs : Grouping.Valid ⟨hs, v⟩ :=
        ⟨fun k hk => hh.groups k (List.mem_cons_of_mem g hk), hh.unclosed⟩
      have hrest := ih hgs hs hhs htail
      cases hrest
      rfl

end Grouping

def Outside (ts : List Token) : Prop := ∃ g : Grouping, g.Valid ∧ g.tokens = ts

def Inside (ts : List Token) : Prop :=
  ∃ body, (∀ t ∈ body, t.category.isBetween = true) ∧
    (ts = body ∨ ∃ closing rest, closing.category = .stringQuoteClose ∧ Outside rest ∧
      ts = body ++ closing :: rest)

theorem outside_nil : Outside [] := by
  refine ⟨⟨[], none⟩, ⟨?_, ?_⟩, rfl⟩
  · intro g hg
    cases hg
  · intro u hu
    cases hu

theorem inside_nil : Inside [] := ⟨[], List.forall_mem_nil _, .inl rfl⟩

theorem Outside.cons {g : Group} {ts : List Token} (hg : g.Valid) (h : Outside ts) :
    Outside (g.tokens ++ ts) := by
  obtain ⟨r, hr, rfl⟩ := h
  exact ⟨_, hr.cons hg, r.tokens_cons g⟩

theorem Inside.opened {o : Token} {ts : List Token} (h : Inside ts)
    (ho : o.category = .stringQuoteOpen) : Outside (o :: ts) := by
  obtain ⟨body, hbody, rfl | ⟨closing, rest, hclose, hrest, rfl⟩⟩ := h
  · refine ⟨⟨[], some ⟨o, ts⟩⟩, ⟨?_, ?_⟩, rfl⟩
    · intro g hg
      cases hg
    · intro u hu
      obtain rfl := Option.some.inj hu
      exact ⟨ho, hbody⟩
  · have hstring : (Group.string o body closing).Valid := ⟨ho, hbody, hclose⟩
    have hgrouped := hrest.cons hstring
    rwa [Group.tokens, List.cons_append, List.append_assoc] at hgrouped

theorem Inside.cons {t : Token} {ts : List Token} (h : Inside ts)
    (ht : t.category.isBetween = true) : Inside (t :: ts) := by
  obtain ⟨body, hbody, hts⟩ := h
  have hall : ∀ u ∈ t :: body, u.category.isBetween = true := by
    intro u hu
    rcases List.mem_cons.mp hu with rfl | hu
    · exact ht
    · exact hbody u hu
  rcases hts with rfl | ⟨closing, rest, hclose, hrest, rfl⟩
  · exact ⟨_, hall, .inl rfl⟩
  · exact ⟨_, hall, .inr ⟨closing, rest, hclose, hrest, rfl⟩⟩

theorem Outside.closed {c : Token} {ts : List Token} (h : Outside ts)
    (hc : c.category = .stringQuoteClose) : Inside (c :: ts) :=
  ⟨[], List.forall_mem_nil _, .inr ⟨c, ts, hc, h, rfl⟩⟩

/-- The tokens of a run group from wherever it starts. -/
theorem Scans.grouped {s s' : ModeStack} {cs rest : List Char} {ls : List Lexeme}
    (h : Scans s cs ls s' rest) (p : Nat) :
    (s = .base → Outside (Lexeme.layOut p ls)) ∧ (s = .inString → Inside (Lexeme.layOut p ls)) := by
  induction h generalizing p with
  | done => exact ⟨fun _ => outside_nil, fun _ => inside_nil⟩
  | @step s s' cs rest ls m hne hm htail ih =>
    subst hm
    rw [Lexeme.lay_out_append]
    constructor
    · rintro rfl
      rw [ModeStack.current_base] at ih ⊢
      cases root_step cs with
      | alone c hlex halone hchar hmodes =>
        rw [hlex]
        have hvalid :
            (Group.alone (Lexeme.token ⟨cs.take (matchAt .root cs).length, c⟩ p)).Valid := by
          refine ⟨halone, fun hc => ?_⟩
          rw [Lexeme.token, ← byte_length_of_list]
          exact Nat.le_trans (hchar hc) (length_le_byte_length _)
        exact ((ih _).1 (hmodes _)).cons hvalid
      | quoted inner hact htext =>
        rw [hact] at ih ⊢
        rw [htext, quoted_lexemes]
        have hvalid : (Group.quoted (Lexeme.token ⟨['\''], .char⟩ p)
            (Lexeme.token ⟨inner, .stringEscape⟩ (p + 1))
            (Lexeme.token ⟨['\''], .char⟩ (p + 1 + byteLength inner))).Valid :=
          ⟨⟨rfl, rfl⟩, rfl, ⟨rfl, rfl⟩⟩
        exact ((ih _).1 rfl).cons hvalid
      | opens hact =>
        rw [hact] at ih ⊢
        exact ((ih _).2 rfl).opened rfl
    · rintro rfl
      rw [show ModeStack.inString.current = .string from rfl] at ih ⊢
      cases string_step cs with
      | between c hlex hbetween hmodes =>
        rw [hlex]
        exact ((ih _).2 (hmodes _)).cons hbetween
      | closes hact =>
        rw [hact] at ih ⊢
        exact ((ih _).1 rfl).closed rfl

theorem Lexer.take_eq (n : Nat) (lx : Lexer) : (lx.take n).1 = lx.tokens.take n := by
  induction n generalizing lx with
  | zero => rfl
  | succ n ih =>
    rw [Lexer.take]
    cases hn : lx.next? with
    | none => rw [Lexer.tokens_of_next_eq_none hn, List.take_nil]
    | some p => rw [Lexer.tokens_of_next_eq_some hn, List.take_succ_cons, ← ih]

/-- However many tokens are asked for, the modes are the bottom alone or one string on it,
tokens wait only outside strings, and the last quote of a string that was handed out tells
the mode. The tokens of the whole text group in exactly one way. -/
theorem lex_grouping (text : String) :
    (∀ n, ((Lexer.ofString text).take n).1 = (lex text).take n ∧
      (((Lexer.ofString text).take n).2.modes = .base ∨
        ((Lexer.ofString text).take n).2.modes = .inString) ∧
      ((Lexer.ofString text).take n).2.mode ≠ .whitespace ∧
      ((Lexer.ofString text).take n).2.modes.depth ≤ 2 ∧
      (((Lexer.ofString text).take n).2.waiting ≠ [] →
        ((Lexer.ofString text).take n).2.modes = .base) ∧
      (((Lexer.ofString text).take n).2.mode = .string ↔
        lastQuote (((lex text).take n).map Token.category) = some .stringQuoteOpen)) ∧
    ∃ g : Grouping, (g.Valid ∧ g.tokens = lex text) ∧
      ∀ h : Grouping, h.Valid ∧ h.tokens = lex text → h = g := by
  constructor
  · intro n
    have hyields := Yields.take n (Lexer.ofString text)
    have htake : ((Lexer.ofString text).take n).1 = (lex text).take n := Lexer.take_eq n _
    have hwaits := hyields.waits_outside (waits_outside_of_string text)
    have htold := hyields.told
    rw [htake] at htold
    refine ⟨htake, hwaits.shallow, ?_, ?_, hwaits.outside, ?_⟩
    · rw [Lexer.mode]
      rcases htold with ⟨hs, _⟩ | ⟨hs, _⟩ <;> rw [hs] <;> decide
    · rcases htold with ⟨hs, _⟩ | ⟨hs, _⟩ <;> rw [hs] <;> decide
    · rw [Lexer.mode]
      rcases htold with ⟨hs, hlast⟩ | ⟨hs, hlast⟩
      · rw [hs]
        exact iff_of_false (by decide) hlast
      · rw [hs]
        exact ⟨fun _ => hlast, fun _ => rfl⟩
  · obtain ⟨ls, s, hscans⟩ := Scans.exists_end .base text.toList
    obtain ⟨g, hg, htokens⟩ := (hscans.grouped 0).1 rfl
    rw [← lex_of_scans hscans] at htokens
    refine ⟨g, ⟨hg, htokens⟩, ?_⟩
    rintro h ⟨hh, htokens'⟩
    exact Grouping.unique hh hg (htokens'.trans htokens.symm)

theorem lex_grouping_unclosed :
    ((Lexer.ofString "'\\n'\"\\").take 1).2.waiting ≠ [] ∧
    ((Lexer.ofString "'\\n'\"\\").take 1).2.modes = .base ∧
    ((Lexer.ofString "'\\n'\"\\").take 4).2.mode = .string ∧
    lastQuote (((lex "'\\n'\"\\").take 4).map Token.category) = some .stringQuoteOpen ∧
    ∃ g : Grouping, (g.Valid ∧ g.tokens = lex "'\\n'\"\\") ∧
      ∀ h : Grouping, h.Valid ∧ h.tokens = lex "'\\n'\"\\" → h = g := by
  obtain ⟨hcalls, hgroups⟩ := lex_grouping "'\\n'\"\\"
  obtain ⟨_, _, _, _, hwaits, _⟩ := hcalls 1
  obtain ⟨_, _, _, _, _, hmode⟩ := hcalls 4
  have hwaiting : ((Lexer.ofString "'\\n'\"\\").take 1).2.waiting ≠ [] := by decide
  have hstring : ((Lexer.ofString "'\\n'\"\\").take 4).2.mode = .string := by decide
  exact ⟨hwaiting, hwaits hwaiting, hstring, hmode.mp hstring, hgroups⟩

end ArmTokens
