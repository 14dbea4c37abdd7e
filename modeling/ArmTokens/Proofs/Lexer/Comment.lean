import ArmTokens.Proofs.Lexer.Nesting
import ArmTokens.Proofs.Lexer.StringMode
import ArmTokens.Proofs.Pattern.Comment

/-!
# What stands in a comment

No match before a comment sees more of it than the leader, and the lexer goes on
behind it as behind any end of a line. So a comment may say what it likes and
only its own token changes.
-/

set_option autoImplicit false

namespace ArmTokens

def Category.leader? : Category → Option String
  | .comment => some ";"
  | .commentExpectPass => some ">>;"
  | .commentExpectFail => some ">>-"
  | _ => none

theorem leader_mem {c : Category} {leader : String} (h : c.leader? = some leader) :
    leader.toList ∈ leaders := by
  cases c with
  | comment | commentExpectPass | commentExpectFail =>
    obtain rfl := Option.some.inj h
    decide
  | _ => cases h

theorem comment_match {mode : Mode} {cs : List Char} {c : Category} {leader : String}
    (hc : c.leader? = some leader) (h : c ∈ (matchAt mode cs).action.categories) :
    mode = .root ∧ (matchAt mode cs).action = .emit c ∧
      Pattern.lineLength? leader.toList cs = some (matchAt mode cs).length := by
  have hall : ∀ mode : Mode, ∀ r ∈ mode.rules, ∀ c ∈ r.action.categories, c.leader? ≠ none →
      mode = .root ∧ r.action = .emit c ∧
      (r.pattern, c) ∈ [(.comment, .comment), (.expectPass, .commentExpectPass),
        (.expectFail, .commentExpectFail)] := by
    intro mode
    cases mode <;> decide
  rcases match_at_cases mode cs with ⟨r, hr, hn, hact⟩ | ⟨_, hm⟩
  · rw [hact] at h
    obtain ⟨hroot, hemit, hpair⟩ := hall mode r hr c h (by rw [hc]; nofun)
    refine ⟨hroot, hact.trans hemit, ?_⟩
    simp only [List.mem_cons, Prod.mk.injEq, List.not_mem_nil, or_false] at hpair
    rcases hpair with ⟨hp, rfl⟩ | ⟨hp, rfl⟩ | ⟨hp, rfl⟩ <;>
      · obtain rfl := Option.some.inj hc
        rw [hp] at hn
        exact hn
  · rw [hm] at h
    obtain rfl := List.mem_singleton.mp h
    cases hc

theorem match_at_comment {c : Category} {leader : String} (hc : c.leader? = some leader)
    {body behind : List Char} (hbody : ∀ d ∈ body, isLineEnd d = false) (hend : AtLineEnd behind) :
    matchAt .root (leader.toList ++ (body ++ behind)) =
      ⟨(leader.toList ++ body).length, .emit c⟩ := by
  have hline : Pattern.lineLength? leader.toList (leader.toList ++ (body ++ behind)) =
      some (leader.toList ++ body).length :=
    line_eq_some_iff.mpr ⟨body, behind, rfl, rfl, hbody, hend⟩
  -- The leader tells that no rule before the one of the comment matches.
  cases c with
  | comment =>
    obtain rfl := Option.some.inj hc
    exact match_at_of_rule (k := 17) (r := ⟨.comment, .emit .comment⟩) rfl rfl hline
  | commentExpectPass =>
    obtain rfl := Option.some.inj hc
    exact match_at_of_rule (k := 18) (r := ⟨.expectPass, .emit .commentExpectPass⟩) rfl rfl hline
  | commentExpectFail =>
    obtain rfl := Option.some.inj hc
    exact match_at_of_rule (k := 19) (r := ⟨.expectFail, .emit .commentExpectFail⟩) rfl rfl hline
  | _ => cases hc

theorem match_root_stray {b : List Char} (h : charLiteralLength? ('\'' :: ';' :: b) = none) :
    matchAt .root ('\'' :: ';' :: b) = ⟨1, .emit .charInvalid⟩ := by
  have hbefore : firstMatch? (Mode.root.rules.take 13) ('\'' :: ';' :: b) = none := rfl
  have hliteral := first_match_take_succ (r := ⟨.charLiteral, .emit .char⟩) hbefore rfl h
  have hescape := first_match_take_succ (r := ⟨.charEscape, .quoted .char .stringEscape⟩)
    hliteral rfl rfl
  exact match_at_of_rule (r := ⟨.singleQuote, .emit .charInvalid⟩) hescape rfl rfl

theorem Scans.nil_of_same {s s' : ModeStack} {cs : List Char} {ls : List Lexeme}
    (h : Scans s cs ls s' cs) : ls = [] := by
  obtain ⟨ms, hms, _⟩ := h.rest (.done s cs) (Nat.le_refl _)
  exact (List.append_eq_nil_iff.mp hms.symm).1

/-- A match that ends before a leader stays when the text behind the leader is another. -/
theorem match_at_before_leader {mode : Mode} {leader : List Char} (hl : leader ∈ leaders)
    {w b b' : List Char} (hw : w ≠ []) (hle : (matchAt mode (w ++ (leader ++ b))).length ≤ w.length)
    (hopen : mode = .root → openStringLength? (w ++ (leader ++ b)) = none →
      openStringLength? (w ++ (leader ++ b')) = none)
    (hquote : mode = .root → charLiteralLength? (w ++ (leader ++ b)) = none →
      ¬ (w = ['\''] ∧ leader = [';'] ∧ b'.head? = some '\'')) :
    matchAt mode (w ++ (leader ++ b')) = matchAt mode (w ++ (leader ++ b)) := by
  have hlt : (matchAt mode (w ++ (leader ++ b))).length < (w ++ leader).length := by
    have hpos := leader_length_pos hl
    rw [List.length_append]
    omega
  apply match_at_eq
  · intro r _ hn
    generalize (matchAt mode (w ++ (leader ++ b))).length = n at hn hlt ⊢
    rw [← List.append_assoc] at hn ⊢
    exact r.pattern.settles.extend b' (r.pattern.settles.cut hn (Nat.le_of_lt hlt)) hlt
  · intro r hr hn
    by_cases hp : r.pattern = .openString
    · rw [hp] at hn ⊢
      exact hopen (root_of_pattern hr (.inl hp)) hn
    · have hquote : r.pattern = .charLiteral →
          ¬ (w = ['\''] ∧ leader = [';'] ∧ b'.head? = some '\'') := by
        intro hp
        rw [hp] at hn
        exact hquote (root_of_pattern hr (.inr hp)) hn
      rw [← List.append_assoc] at hn ⊢
      exact Pattern.none_behind hp hl hw hquote hn

/-- The run to the leader of a comment is the same with any other body behind it, but for a
stray quote before a `;` that another quote would make a character of. -/
theorem Scans.swap_body {leader : List Char} (hl : leader ∈ leaders) {s : ModeStack}
    {w b b' : List Char} {ls : List Lexeme}
    (h : Scans s (w ++ (leader ++ b)) ls .base (leader ++ b))
    (hs : s.Shallow) (hquote : leader = [';'] → b'.head? = some '\'' →
      ∀ l ∈ ls.getLast?, l.category ≠ .charInvalid) :
    Scans s (w ++ (leader ++ b')) ls .base (leader ++ b') := by
  apply h.transfer hs rfl _ rfl
  intro s w behind hway hsuffix
  apply match_at_before_leader hl hway.ne_nil hway.within
  · apply hway.open_string
    intro hline
    obtain ⟨d, tail, hd, hhead⟩ := leader_head hl
    rw [hd, List.cons_append, at_line_end_cons] at hline
    rcases hhead with rfl | rfl <;> cases hline
  · rintro hroot hn ⟨rfl, rfl, hhead⟩
    -- The run takes the stray quote alone, and it is the last lexeme before the comment.
    have hstray : matchAt .root (['\''] ++ ([';'] ++ b)) = ⟨1, .emit .charInvalid⟩ :=
      match_root_stray hn
    have htail := hway.behind
    rw [hroot, hstray] at hsuffix htail
    obtain rfl := htail.nil_of_same
    obtain ⟨before, rfl⟩ := hsuffix
    exact hquote rfl hhead ⟨['\''], .charInvalid⟩ (by simp [Action.lexemes]) rfl

theorem Scans.split {s s' : ModeStack} {cs rest : List Char} {ls : List Lexeme}
    (h : Scans s cs ls s' rest) {l : Lexeme}
    (halone : ∀ mode cs, l ∈ (matchAt mode cs).action.lexemes (cs.take (matchAt mode cs).length) →
      (matchAt mode cs).action.lexemes (cs.take (matchAt mode cs).length) = [l])
    {ls₁ ls₂ : List Lexeme} (hls : ls = ls₁ ++ l :: ls₂) :
    ∃ s₁ mid, Scans s cs ls₁ s₁ mid ∧
      (matchAt s₁.current mid).action.lexemes (mid.take (matchAt s₁.current mid).length) = [l] ∧
      Scans ((matchAt s₁.current mid).action.modes s₁) (mid.drop (matchAt s₁.current mid).length)
        ls₂ s' rest := by
  induction h generalizing ls₁ with
  | done => simp at hls
  | @step s s' cs rest ls m hne hm htail ih =>
    subst hm
    rcases List.append_eq_append_iff.mp hls with ⟨more, rfl, hmore⟩ | ⟨more, hlex, hmore⟩
    · obtain ⟨s₁, mid, hbefore, hone, hbehind⟩ := ih hmore
      exact ⟨s₁, mid, .step hne rfl hbefore, hone, hbehind⟩
    · cases more with
      | nil =>
        obtain ⟨s₁, mid, hbefore, hone, hbehind⟩ := ih (show ls = [] ++ l :: ls₂ from hmore.symm)
        rw [List.append_nil] at hlex
        have hstep := Scans.step hne rfl hbefore
        rw [hlex, List.append_nil] at hstep
        exact ⟨s₁, mid, hstep, hone, hbehind⟩
      | cons l' more =>
        obtain ⟨rfl, hbehind⟩ := List.cons.inj hmore
        have hone := halone s.current cs (by rw [hlex]; simp)
        have hlen := congrArg List.length (hlex.symm.trans hone)
        simp only [List.length_append, List.length_cons, List.length_nil] at hlen
        obtain rfl : ls₁ = [] := List.eq_nil_of_length_eq_zero (by omega)
        obtain rfl : more = [] := List.eq_nil_of_length_eq_zero (by omega)
        rw [hbehind]
        exact ⟨s, cs, .done s cs, hone, htail⟩

theorem scans_of_comment {c : Category} {leader : String} (hc : c.leader? = some leader)
    {body behind : List Char} (hbody : ∀ d ∈ body, isLineEnd d = false) (hend : AtLineEnd behind)
    {ls : List Lexeme} {s : ModeStack} (h : Scans .base behind ls s []) :
    Scans .base (leader.toList ++ (body ++ behind)) (⟨leader.toList ++ body, c⟩ :: ls) s [] := by
  have hmatch : matchAt ModeStack.base.current (leader.toList ++ (body ++ behind)) =
      ⟨(leader.toList ++ body).length, .emit c⟩ := match_at_comment hc hbody hend
  have hne : leader.toList ++ (body ++ behind) ≠ [] :=
    List.append_ne_nil_of_left_ne_nil
      (List.ne_nil_of_length_pos (leader_length_pos (leader_mem hc))) _
  rw [← List.append_assoc] at hmatch hne ⊢
  have hstep := Scans.emit hne hmatch (by rw [List.drop_left]; exact h)
  rwa [List.take_left] at hstep

theorem scans_comment {text : List Char} {ls₁ ls₂ : List Lexeme} {l : Lexeme} {s : ModeStack}
    {leader : String} (h : Scans .base text (ls₁ ++ l :: ls₂) s [])
    (hl : l.category.leader? = some leader) :
    ∃ old right, l.text = leader.toList ++ old ∧ AtLineEnd right ∧
      Scans .base text ls₁ .base (leader.toList ++ (old ++ right)) ∧
      Scans .base right ls₂ s [] := by
  have halone : ∀ mode cs, l ∈ (matchAt mode cs).action.lexemes (cs.take (matchAt mode cs).length) →
      (matchAt mode cs).action.lexemes (cs.take (matchAt mode cs).length) = [l] := by
    intro mode cs hmem
    obtain ⟨_, hemit, _⟩ := comment_match hl (category_mem hmem)
    rw [hemit] at hmem ⊢
    rw [List.mem_singleton.mp hmem]
    rfl
  obtain ⟨s₁, mid, hbefore, hone, hbehind⟩ := h.split halone rfl
  obtain ⟨hroot, hemit, hline⟩ := comment_match hl (category_mem (hone ▸ List.mem_singleton_self l))
  obtain rfl := (hbefore.shallow (.inl rfl)).eq_base hroot
  obtain ⟨old, right, rfl, hlen, _, hend⟩ := line_eq_some_iff.mp hline
  rw [hemit, ← hlen, ← List.append_assoc, List.take_left] at hone
  rw [hemit, ← hlen, ← List.append_assoc, List.drop_left] at hbehind
  refine ⟨old, right, ?_, hend, hbefore, hbehind⟩
  rw [← (List.cons.inj hone).1]

theorem last_category_lay_out (p : Nat) (ls : List Lexeme) :
    (Lexeme.layOut p ls).getLast?.map Token.category = ls.getLast?.map Lexeme.category := by
  rw [← List.getLast?_map, ← List.getLast?_map, categories_lay_out]

theorem comment_of_leader {c : Category} {leader : String} (hc : c.leader? = some leader)
    (h : leader.toList = [';']) : c = .comment := by
  cases c with
  | comment => rfl
  | commentExpectPass | commentExpectFail =>
    obtain rfl := Option.some.inj hc
    cases h
  | _ => cases hc

def Token.retext (t : Token) (text : String) : Token :=
  ⟨text, ⟨t.start, text.utf8ByteSize⟩, t.category⟩

theorem retext_token (l : Lexeme) (p : Nat) (text : String) :
    (l.token p).retext text = (Lexeme.mk text.toList l.category).token p := by
  show _ = (⟨String.ofList text.toList, ⟨p, byteLength text.toList⟩, l.category⟩ : Token)
  rw [String.ofList_toList, byte_length_to_list]
  rfl

theorem Scans.new_body {text : List Char} {ls₁ ls₂ : List Lexeme} {l : Lexeme} {s : ModeStack}
    {leader : String} (h : Scans .base text (ls₁ ++ l :: ls₂) s [])
    (hl : l.category.leader? = some leader) {body : List Char}
    (hbody : ∀ c ∈ body, isLineEnd c = false)
    (hstray : leader.toList = [';'] → body.head? = some '\'' →
      ∀ l ∈ ls₁.getLast?, l.category ≠ .charInvalid) :
    ∃ old right, text = Lexeme.join ls₁ ++ leader.toList ++ old ++ right ∧
      l.text = leader.toList ++ old ∧
      Scans .base (Lexeme.join ls₁ ++ leader.toList ++ body ++ right)
        (ls₁ ++ ⟨leader.toList ++ body, l.category⟩ :: ls₂) s [] := by
  obtain ⟨old, right, htext, hend, hbefore, hbehind⟩ := scans_comment h hl
  have hjoin := hbefore.join
  rw [← hjoin] at hbefore
  have hswap := hbefore.swap_body (leader_mem hl) (.inl rfl)
    fun hsemicolon hhead => hstray hsemicolon (hend.head rfl hhead)
  have hnew := hswap.append (scans_of_comment hl hbody hend hbehind)
  simp only [List.append_assoc]
  exact ⟨old, right, hjoin.symm, htext, hnew⟩

/-- Another body of a comment changes the token of the comment and moves the tokens behind it,
and no other token tells of it. Only a stray quote before a `;` would make a character of it
with a quote behind. -/
theorem lex_comment_body (text body leader : String) (before behind : List Token) (t : Token)
    (hlex : lex text = before ++ t :: behind) (hleader : t.category.leader? = some leader)
    (hbody : ∀ c ∈ body.toList, isLineEnd c = false)
    (hquote : t.category = .comment → (∃ u ∈ before.getLast?, u.category = .charInvalid) →
      body.toList.head? ≠ some '\'') :
    ∃ left old right behind', text = left ++ leader ++ old ++ right ∧
      left.utf8ByteSize = t.start ∧ t.text = leader ++ old ∧
      lex (left ++ leader ++ body ++ right) = before ++ t.retext (leader ++ body) :: behind' ∧
      behind'.map (Token.shift t.span.len) =
        behind.map (Token.shift (leader ++ body).utf8ByteSize) := by
  obtain ⟨ls, s, hls⟩ := Scans.exists_end .base text.toList
  rw [lex_of_scans hls] at hlex
  obtain ⟨ls₁, l, ls₂, rfl, rfl, rfl, rfl⟩ := lay_out_split hlex
  have hstray : leader.toList = [';'] → body.toList.head? = some '\'' →
      ∀ l ∈ ls₁.getLast?, l.category ≠ .charInvalid := by
    intro hsemicolon hhead l' hl' hinvalid
    have hlast := last_category_lay_out 0 ls₁
    rw [Option.mem_def.mp hl', Option.map_some, hinvalid] at hlast
    exact hquote (comment_of_leader hleader hsemicolon) (Option.map_eq_some_iff.mp hlast) hhead
  obtain ⟨old, right, htext, hl, hnew⟩ := hls.new_body hleader hbody hstray
  refine ⟨String.ofList (Lexeme.join ls₁), String.ofList old, String.ofList right,
    Lexeme.layOut (0 + byteLength (Lexeme.join ls₁) + byteLength (leader ++ body).toList) ls₂,
    ?_, ?_, ?_, ?_, ?_⟩
  · rw [← String.toList_inj, htext]
    simp
  · rw [← byte_length_of_list, start_token, Nat.zero_add]
  · rw [← String.toList_inj]
    simp [Lexeme.token, hl]
  · have hscans : Scans .base (String.ofList (Lexeme.join ls₁) ++ leader ++ body ++
        String.ofList right).toList (ls₁ ++ ⟨(leader ++ body).toList, l.category⟩ :: ls₂) s [] := by
      simpa only [String.toList_append, String.toList_ofList] using hnew
    rw [retext_token, lex_of_scans hscans, Lexeme.lay_out_append]
    rfl
  · rw [← lay_out_shift, ← lay_out_shift, ← byte_length_to_list]
    show Lexeme.layOut (_ + byteLength l.text) ls₂ = _
    congr 1
    omega

theorem lex_comment_body_quotes :
    lex "\"a\" ;x\n#1" =
      [⟨"\"", ⟨0, 1⟩, .stringQuoteOpen⟩, ⟨"a", ⟨1, 1⟩, .string⟩, ⟨"\"", ⟨2, 1⟩, .stringQuoteClose⟩,
        ⟨" ", ⟨3, 1⟩, .whitespace⟩] ++
      ⟨";x", ⟨4, 2⟩, .comment⟩ :: [⟨"\n", ⟨6, 1⟩, .whitespace⟩, ⟨"#1", ⟨7, 2⟩, .immediateDec⟩] ∧
    (∀ c ∈ "'\"\\".toList, isLineEnd c = false) ∧
    ∃ left old right behind', "\"a\" ;x\n#1" = left ++ ";" ++ old ++ right ∧
      left.utf8ByteSize = 4 ∧ ";x" = ";" ++ old ∧
      lex (left ++ ";" ++ "'\"\\" ++ right) =
        [⟨"\"", ⟨0, 1⟩, .stringQuoteOpen⟩, ⟨"a", ⟨1, 1⟩, .string⟩,
          ⟨"\"", ⟨2, 1⟩, .stringQuoteClose⟩, ⟨" ", ⟨3, 1⟩, .whitespace⟩] ++
        (Token.mk ";x" ⟨4, 2⟩ .comment).retext (";" ++ "'\"\\") :: behind' ∧
      behind'.map (Token.shift 2) =
        [⟨"\n", ⟨6, 1⟩, .whitespace⟩, ⟨"#1", ⟨7, 2⟩, .immediateDec⟩].map
          (Token.shift (";" ++ "'\"\\").utf8ByteSize) := by
  have hlex : lex "\"a\" ;x\n#1" =
      [⟨"\"", ⟨0, 1⟩, .stringQuoteOpen⟩, ⟨"a", ⟨1, 1⟩, .string⟩, ⟨"\"", ⟨2, 1⟩, .stringQuoteClose⟩,
        ⟨" ", ⟨3, 1⟩, .whitespace⟩] ++
      ⟨";x", ⟨4, 2⟩, .comment⟩ :: [⟨"\n", ⟨6, 1⟩, .whitespace⟩, ⟨"#1", ⟨7, 2⟩, .immediateDec⟩] := by
    have hend : ((Lexer.ofString "\"a\" ;x\n#1").take 7).2.next? = none := by decide
    rw [lex, Yields.tokens_eq_take hend]
    decide
  have hbody : ∀ c ∈ "'\"\\".toList, isLineEnd c = false := by simp [isLineEnd]
  exact ⟨hlex, hbody, lex_comment_body _ _ _ _ _ _ hlex rfl hbody (by decide)⟩

/-- A stray quote and a comment, and what another quote makes of them. -/
example : ((Lexer.ofString "';x").take 2).1.map Token.category = [.charInvalid, .comment] ∧
    ((Lexer.ofString "';'").take 2).1.map Token.category = [.char] := by decide

end ArmTokens
