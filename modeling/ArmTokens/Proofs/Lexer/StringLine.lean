import ArmTokens.Proofs.Lexer.LayOut
import ArmTokens.Proofs.Lexer.StringMode

/-!
# What becomes of an opening quote

A quote in the root mode is the start of one of three things: an invalid string
that takes the line, a string that a quote closes on the line, or a string that
breaks off at a backslash before the line end. The look ahead tells the first
apart from the other two, and the rules of the string mode come to the same end.
-/

set_option autoImplicit false

namespace ArmTokens

def Token.InString (t : Token) : Prop :=
  t.category.inString = true ∧ ∀ c ∈ t.text.toList, isLineEnd c = false

/-- The next token is an invalid string up to the end of the line. Behind its first quote
every quote and every backslash belongs to a backslash with the character behind it. -/
def InvalidString (lx : Lexer) : Prop :=
  ∃ t lx' line, Yields lx [t] lx' ∧ t.category = .stringInvalid ∧ t.text.toList = '"' :: line ∧
    Paired line ∧ lx'.waiting = [] ∧ AtLineEnd lx'.rest

def OpensString (lx : Lexer) (last : Token) (lx' : Lexer) : Prop :=
  ∃ o parts, Yields lx (o :: parts ++ [last]) lx' ∧ o.category = .stringQuoteOpen ∧
    (∀ t ∈ parts, t.InString) ∧ lx'.waiting = []

def ClosedString (lx : Lexer) : Prop :=
  ∃ last lx', OpensString lx last lx' ∧ last.category = .stringQuoteClose

/-- The next tokens are a string that breaks off at a backslash before the line end. -/
def BrokenString (lx : Lexer) : Prop :=
  ∃ last lx', OpensString lx last lx' ∧ last.category = .invalid ∧ last.text = "\\" ∧
    AtLineEnd lx'.rest

theorem in_string_lay_out {p : Nat} {ls : List Lexeme} (h : ∀ l ∈ ls, l.InString) :
    ∀ t ∈ Lexeme.layOut p ls, t.InString := by
  intro t ht
  obtain ⟨ls₁, l, ls₂, rfl, rfl⟩ := mem_lay_out ht
  obtain ⟨hc, hline⟩ := h l (by simp)
  refine ⟨hc, ?_⟩
  rw [Lexeme.token, String.toList_ofList]
  exact hline

theorem scans_invalid_string {s : ModeStack} (hs : s.current = .root) {u v : List Char}
    (hu : Paired u) (hv : AtLineEnd v) :
    Scans s ('"' :: (u ++ v)) [⟨'"' :: u, .stringInvalid⟩] s v := by
  have hbody : openBodyLength? (u ++ v) = some u.length :=
    open_body_eq_some_iff.mpr ⟨u, v, rfl, rfl, hu, hv⟩
  have hmatch : matchAt s.current ('"' :: (u ++ v)) = ⟨1 + u.length, .emit .stringInvalid⟩ := by
    rw [hs, match_root_quote, hbody]
  have hstep := Scans.emit (List.cons_ne_nil _ _) hmatch (.done s _)
  rw [Nat.add_comm, List.take_succ_cons, List.take_left, List.drop_succ_cons, List.drop_left]
    at hstep
  exact hstep

theorem scans_opened_string {s : ModeStack} (hs : s.current = .root) {u v : List Char}
    (hu : Paired u) (hv : Stops v) :
    ∃ parts, Scans s ('"' :: (u ++ v)) (⟨['"'], .stringQuoteOpen⟩ :: parts) (s.push .string) v ∧
      ∀ l ∈ parts, l.InString := by
  have hbody : openBodyLength? (u ++ v) = none := open_body_eq_none_iff.mpr ⟨u, v, rfl, hu, hv⟩
  have hmatch : matchAt s.current ('"' :: (u ++ v)) = ⟨1, .enter .stringQuoteOpen .string⟩ := by
    rw [hs, match_root_quote, hbody]
  obtain ⟨parts, hparts, hin⟩ := scans_paired (s.current_push .string) hu hv
  exact ⟨parts, .step (List.cons_ne_nil _ _) hmatch hparts, hin⟩

theorem scans_close {s : ModeStack} (v : List Char) :
    Scans (s.push .string) ('"' :: v) [⟨['"'], .stringQuoteClose⟩] s v := by
  have hmatch : matchAt (s.push .string).current ('"' :: v) = ⟨1, .leave .stringQuoteClose⟩ := rfl
  exact .step (List.cons_ne_nil _ _) hmatch (.done s v)

theorem scans_broken {s : ModeStack} (hs : s.current = .string) {v : List Char}
    (hv : AtLineEnd v) : Scans s ('\\' :: v) [⟨['\\'], .invalid⟩] s v := by
  have hmatch : matchAt s.current ('\\' :: v) = ⟨1, .emit .invalid⟩ := by
    rw [hs, match_string_broken hv]
  exact .emit (List.cons_ne_nil _ _) hmatch (.done s v)

theorem scans_quote {s : ModeStack} (hs : s.current = .root) (cs : List Char) :
    (∃ u v, Paired u ∧ AtLineEnd v ∧ Scans s ('"' :: cs) [⟨'"' :: u, .stringInvalid⟩] s v) ∨
    (∃ parts v, (∀ l ∈ parts, l.InString) ∧
      Scans s ('"' :: cs)
        (⟨['"'], .stringQuoteOpen⟩ :: parts ++ [⟨['"'], .stringQuoteClose⟩]) s v) ∨
    (∃ parts v, (∀ l ∈ parts, l.InString) ∧ AtLineEnd v ∧
      Scans s ('"' :: cs) (⟨['"'], .stringQuoteOpen⟩ :: parts ++ [⟨['\\'], .invalid⟩])
        (s.push .string) v) := by
  obtain ⟨u, v, rfl, hu, hv | hv⟩ := exists_paired cs
  · exact .inl ⟨u, v, hu, hv, scans_invalid_string hs hu hv⟩
  · obtain ⟨parts, hparts, hin⟩ := scans_opened_string hs hu hv
    rcases hv with hquote | ⟨tail, rfl, htail⟩
    · obtain ⟨tail, rfl⟩ := List.head?_eq_some_iff.mp hquote
      exact .inr (.inl ⟨parts, tail, hin, hparts.append (scans_close tail)⟩)
    · exact .inr (.inr ⟨parts, tail, hin, htail, hparts.append (scans_broken rfl htail)⟩)

theorem quote_cases {lx : Lexer} (hw : lx.waiting = []) (hroot : lx.mode = .root)
    (hquote : lx.rest.head? = some '"') :
    InvalidString lx ∨ ClosedString lx ∨ BrokenString lx := by
  obtain ⟨rest, position, modes, waiting⟩ := lx
  obtain rfl : waiting = [] := hw
  obtain ⟨cs, rfl⟩ := List.head?_eq_some_iff.mp hquote
  rcases scans_quote hroot cs with ⟨u, v, hu, hv, h⟩ | ⟨parts, v, hin, h⟩ | ⟨parts, v, hin, hv, h⟩
  · refine .inl ⟨_, _, u, h.yields position, rfl, ?_, hu, rfl, hv⟩
    rw [Lexeme.token, String.toList_ofList]
  · have hyields := h.yields position
    rw [Lexeme.lay_out_append, Lexeme.layOut] at hyields
    exact .inr (.inl ⟨_, _, ⟨_, _, hyields, rfl, in_string_lay_out hin, rfl⟩, rfl⟩)
  · have hyields := h.yields position
    rw [Lexeme.lay_out_append, Lexeme.layOut] at hyields
    exact .inr (.inr ⟨_, _, ⟨_, _, hyields, rfl, in_string_lay_out hin, rfl⟩, rfl, rfl, hv⟩)

theorem InvalidString.head {lx : Lexer} (h : InvalidString lx) :
    ∃ t ∈ lx.tokens.head?, t.category = .stringInvalid := by
  obtain ⟨t, lx', line, hyields, hc, _⟩ := h
  rw [hyields.tokens]
  exact ⟨t, rfl, hc⟩

theorem OpensString.head {lx lx' : Lexer} {last : Token} (h : OpensString lx last lx') :
    ∃ t ∈ lx.tokens.head?, t.category = .stringQuoteOpen := by
  obtain ⟨o, parts, hyields, hc, _⟩ := h
  rw [hyields.tokens]
  exact ⟨o, rfl, hc⟩

theorem OpensString.find {lx lx' : Lexer} {last : Token} (h : OpensString lx last lx')
    (hlast : last.category.inString = false) :
    lx.tokens.tail.find? (fun t => !t.category.inString) = some last := by
  obtain ⟨o, parts, hyields, _, hin, _⟩ := h
  have hparts : parts.find? (fun t => !t.category.inString) = none := by
    apply List.find?_eq_none.mpr
    intro t ht
    rw [(hin t ht).1]
    decide
  rw [hyields.tokens, List.cons_append, List.cons_append, List.tail_cons, List.append_assoc,
    List.find?_append, hparts, Option.none_or, List.singleton_append, List.find?_cons, hlast]
  rfl

theorem OpensString.not_invalid {lx lx' : Lexer} {last : Token} (h : OpensString lx last lx') :
    ¬ InvalidString lx := by
  intro hinvalid
  obtain ⟨t, ht, hc⟩ := h.head
  obtain ⟨u, hu, hc'⟩ := hinvalid.head
  rw [Option.mem_def.mp ht] at hu
  obtain rfl := Option.some.inj hu
  rw [hc] at hc'
  cases hc'

theorem ClosedString.not_broken {lx : Lexer} (h : ClosedString lx) : ¬ BrokenString lx := by
  rintro ⟨last', lx₂, hopens', hc', _⟩
  obtain ⟨last, lx₁, hopens, hc⟩ := h
  have hfind := hopens.find (by rw [hc]; rfl)
  rw [hopens'.find (by rw [hc']; rfl)] at hfind
  obtain rfl := Option.some.inj hfind
  rw [hc] at hc'
  cases hc'

/-- Behind every opening quote come the inside of a string on one line and a closing quote. -/
def StringsClosed (ls : List Lexeme) : Prop :=
  ∀ before o behind, ls = before ++ o :: behind → o.category = .stringQuoteOpen →
    ∃ parts last after, behind = parts ++ last :: after ∧ (∀ l ∈ parts, l.InString) ∧
      last.category = .stringQuoteClose

theorem strings_closed_nil : StringsClosed [] := by
  intro before o behind h
  simp at h

theorem StringsClosed.append {ls ms : List Lexeme}
    (hls : ∀ l ∈ ls, l.category ≠ .stringQuoteOpen) (hms : StringsClosed ms) :
    StringsClosed (ls ++ ms) := by
  intro before o behind h ho
  rcases List.append_eq_append_iff.mp h with ⟨mid, hbefore, hbehind⟩ | ⟨mid, hbefore, hbehind⟩
  · exact hms mid o behind hbehind ho
  · cases mid with
    | nil => exact hms [] o behind hbehind.symm ho
    | cons l mid =>
      obtain ⟨rfl, _⟩ := List.cons.inj hbehind
      exact absurd ho (hls o (by simp [hbefore]))

theorem StringsClosed.string {o last : Lexeme} {parts ls : List Lexeme}
    (hin : ∀ l ∈ parts, l.InString) (hlast : last.category = .stringQuoteClose)
    (hls : StringsClosed ls) : StringsClosed (o :: parts ++ [last] ++ ls) := by
  have hnot : ∀ l ∈ parts ++ [last], l.category ≠ .stringQuoteOpen := by
    intro l hl hopen
    rcases List.mem_append.mp hl with hl | hl
    · have hc := (hin l hl).1
      rw [hopen] at hc
      cases hc
    · rw [List.mem_singleton.mp hl, hlast] at hopen
      cases hopen
  intro before o' behind h ho
  cases before with
  | nil =>
    obtain ⟨rfl, hbehind⟩ := List.cons.inj h
    exact ⟨parts, last, ls, by rw [← hbehind]; simp, hin, hlast⟩
  | cons l before =>
    obtain ⟨rfl, hbehind⟩ := List.cons.inj h
    exact hls.append hnot before o' behind hbehind ho

theorem root_match_of_ne_quote {c : Char} (hc : c ≠ '"') (cs : List Char) :
    (matchAt .root (c :: cs)).action.modes .base = .base ∧
      Category.stringQuoteOpen ∉ (matchAt .root (c :: cs)).action.categories := by
  have hall : ∀ r ∈ Mode.root.rules, r.pattern = .doubleQuote ∨
      (r.action.modes .base = .base ∧ Category.stringQuoteOpen ∉ r.action.categories) := by decide
  rcases match_at_cases .root (c :: cs) with ⟨r, hr, hn, hact⟩ | ⟨_, hm⟩
  · rw [hact]
    rcases hall r hr with hp | hstays
    · rw [hp, Pattern.matchLength?, oneOf?, if_neg (by simpa using hc)] at hn
      cases hn
    · exact hstays
  · rw [hm]
    decide

/-- A run to the end without a malformed lexeme closes every string and ends in the root mode. -/
theorem strings_closed_of_scans {cs : List Char} {ls : List Lexeme} {s : ModeStack}
    (h : Scans .base cs ls s []) (hok : ∀ l ∈ ls, l.category.isMalformed = false) :
    s = .base ∧ StringsClosed ls := by
  -- By length: from a quote over the whole string, from anything else over one match.
  match cs with
  | [] =>
    cases h with
    | done => exact ⟨rfl, strings_closed_nil⟩
    | step hne => exact absurd rfl hne
  | c :: cs =>
    by_cases hc : c = '"'
    · subst hc
      rcases scans_quote ModeStack.current_base cs with ⟨u, v, _, _, hquote⟩ |
        ⟨parts, v, hin, hquote⟩ | ⟨parts, v, _, _, hquote⟩
      · obtain ⟨ms, rfl, _⟩ := hquote.rest h (Nat.zero_le _)
        have hbad := hok ⟨'"' :: u, .stringInvalid⟩ (by simp)
        cases hbad
      · obtain ⟨ms, rfl, hms⟩ := hquote.rest h (Nat.zero_le _)
        have hlen := congrArg List.length hquote.join
        obtain ⟨hbase, hclosed⟩ := strings_closed_of_scans hms
          fun l hl => hok l (List.mem_append_right _ hl)
        exact ⟨hbase, hclosed.string hin rfl⟩
      · obtain ⟨ms, rfl, _⟩ := hquote.rest h (Nat.zero_le _)
        have hbad := hok ⟨['\\'], .invalid⟩ (by simp)
        cases hbad
    · obtain ⟨hstays, hopen⟩ := root_match_of_ne_quote hc cs
      cases h with
      | step hne hm htail =>
        subst hm
        have hpos := match_at_pos .root (c :: cs)
        rw [ModeStack.current_base] at htail hok ⊢
        rw [hstays] at htail
        obtain ⟨hbase, hclosed⟩ := strings_closed_of_scans htail
          fun l hl => hok l (List.mem_append_right _ hl)
        refine ⟨hbase, hclosed.append ?_⟩
        intro l hl heq
        exact hopen (heq ▸ category_mem hl)
termination_by cs.length
decreasing_by
  · simp [Lexeme.join] at hlen
    simp
    omega
  · rw [List.length_drop, List.length_cons]
    omega

theorem quote_exclusive {lx : Lexer} (hw : lx.waiting = []) (hroot : lx.mode = .root)
    (hquote : lx.rest.head? = some '"') :
    (InvalidString lx ∧ ¬ ClosedString lx ∧ ¬ BrokenString lx) ∨
    (¬ InvalidString lx ∧ ClosedString lx ∧ ¬ BrokenString lx) ∨
    (¬ InvalidString lx ∧ ¬ ClosedString lx ∧ BrokenString lx) := by
  rcases quote_cases hw hroot hquote with hinvalid | hclosed | hbroken
  · refine .inl ⟨hinvalid, ?_, ?_⟩
    · rintro ⟨last, lx', hopens, _⟩
      exact hopens.not_invalid hinvalid
    · rintro ⟨last, lx', hopens, _⟩
      exact hopens.not_invalid hinvalid
  · have ⟨last, lx', hopens, _⟩ := hclosed
    exact .inr (.inl ⟨hopens.not_invalid, hclosed, hclosed.not_broken⟩)
  · have ⟨last, lx', hopens, _⟩ := hbroken
    exact .inr (.inr ⟨hopens.not_invalid, fun hclosed => hclosed.not_broken hbroken, hbroken⟩)

theorem category_lay_out {p : Nat} {ls : List Lexeme} {P : Category → Prop}
    (h : ∀ t ∈ Lexeme.layOut p ls, P t.category) : ∀ l ∈ ls, P l.category := by
  intro l hl
  obtain ⟨ls₁, ls₂, rfl⟩ := List.append_of_mem hl
  apply h (l.token (p + byteLength (Lexeme.join ls₁)))
  rw [Lexeme.lay_out_append]
  exact List.mem_append_right _ List.mem_cons_self

theorem StringsClosed.tokens {ls : List Lexeme} (h : StringsClosed ls) {p : Nat}
    {before behind : List Token} {o : Token} (hsplit : Lexeme.layOut p ls = before ++ o :: behind)
    (ho : o.category = .stringQuoteOpen) :
    ∃ parts last after, behind = parts ++ last :: after ∧ (∀ t ∈ parts, t.InString) ∧
      last.category = .stringQuoteClose := by
  obtain ⟨ls₁, l, ls₂, hls, _, rfl, rfl⟩ := lay_out_split hsplit
  obtain ⟨parts, last, after, rfl, hin, hlast⟩ := h ls₁ l ls₂ hls ho
  rw [Lexeme.lay_out_append]
  exact ⟨_, _, _, rfl, in_string_lay_out hin, hlast⟩

/-- Every quote that a root match starts at comes out in exactly one of the three ways. In a
text without malformed tokens it is closed on its line, and the end is reached in the root
mode. -/
theorem lex_opening_quote (text : String) :
    (∀ ts lx, Yields (Lexer.ofString text) ts lx → lx.waiting = [] → lx.mode = .root →
      lx.rest.head? = some '"' →
      (InvalidString lx ∧ ¬ ClosedString lx ∧ ¬ BrokenString lx) ∨
      (¬ InvalidString lx ∧ ClosedString lx ∧ ¬ BrokenString lx) ∨
      (¬ InvalidString lx ∧ ¬ ClosedString lx ∧ BrokenString lx)) ∧
    ((∀ t ∈ lex text, t.category.isMalformed = false) →
      (∀ before o behind, lex text = before ++ o :: behind → o.category = .stringQuoteOpen →
        ∃ parts last after, behind = parts ++ last :: after ∧ (∀ t ∈ parts, t.InString) ∧
          last.category = .stringQuoteClose) ∧
      (Lexer.ofString text).atEnd.mode = .root) := by
  constructor
  · intro ts lx _ hw hroot hquote
    exact quote_exclusive hw hroot hquote
  · intro hok
    obtain ⟨ls, s, hscans⟩ := Scans.exists_end .base text.toList
    have hlex := lex_of_scans hscans
    rw [hlex] at hok ⊢
    obtain ⟨rfl, hclosed⟩ :=
      strings_closed_of_scans hscans (category_lay_out (P := fun c => c.isMalformed = false) hok)
    constructor
    · intro before o behind hsplit ho
      exact hclosed.tokens hsplit ho
    · rw [Lexer.mode, at_end_of_scans hscans]
      rfl

theorem lex_opening_quote_escape :
    (∀ t ∈ lex "\"a\\n\"", t.category.isMalformed = false) ∧
    ((InvalidString (Lexer.ofString "\"a\\n\"") ∧ ¬ ClosedString (Lexer.ofString "\"a\\n\"") ∧
        ¬ BrokenString (Lexer.ofString "\"a\\n\"")) ∨
      (¬ InvalidString (Lexer.ofString "\"a\\n\"") ∧ ClosedString (Lexer.ofString "\"a\\n\"") ∧
        ¬ BrokenString (Lexer.ofString "\"a\\n\"")) ∨
      (¬ InvalidString (Lexer.ofString "\"a\\n\"") ∧ ¬ ClosedString (Lexer.ofString "\"a\\n\"") ∧
        BrokenString (Lexer.ofString "\"a\\n\""))) ∧
    (Lexer.ofString "\"a\\n\"").atEnd.mode = .root := by
  have hok : ∀ t ∈ lex "\"a\\n\"", t.category.isMalformed = false := by
    have hend : ((Lexer.ofString "\"a\\n\"").take 4).2.next? = none := by decide
    rw [lex, Yields.tokens_eq_take hend]
    decide
  have hquote := lex_opening_quote "\"a\\n\""
  exact ⟨hok, hquote.1 [] _ (.done _) rfl rfl (by decide), (hquote.2 hok).2⟩

end ArmTokens
