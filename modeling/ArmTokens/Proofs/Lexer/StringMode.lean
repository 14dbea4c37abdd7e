import ArmTokens.Proofs.Lexer.Locality

/-!
# Between the quotes of a string

Two rules find the end of a string: the look ahead from its first quote, and the
rules of the string mode one after another. Both go over the same paired text.
No match of the string mode parts a backslash from the character behind it, so a
quote that the look ahead stopped at is the one that closes the string.
-/

set_option autoImplicit false

namespace ArmTokens

/-- The look ahead from a quote decides between one invalid string and the string mode. -/
theorem match_root_quote (cs : List Char) :
    matchAt .root ('"' :: cs) =
      match openBodyLength? cs with
      | some n => ⟨1 + n, .emit .stringInvalid⟩
      | none => ⟨1, .enter .stringQuoteOpen .string⟩ := by
  -- None of the eleven rules before the open string takes a quote.
  have hbefore : firstMatch? (Mode.root.rules.take 11) ('"' :: cs) = none := rfl
  cases hbody : openBodyLength? cs with
  | some n =>
    have hopen : openStringLength? ('"' :: cs) = some (1 + n) := by
      rw [openStringLength?, hbody]
      rfl
    exact match_at_of_rule (r := ⟨.openString, .emit .stringInvalid⟩) hbefore rfl hopen
  | none =>
    have hopen : openStringLength? ('"' :: cs) = none := by
      rw [openStringLength?, hbody]
      rfl
    have hquote :=
      first_match_take_succ (r := ⟨.openString, .emit .stringInvalid⟩) hbefore rfl hopen
    exact match_at_of_rule (r := ⟨.doubleQuote, .enter .stringQuoteOpen .string⟩) hquote rfl rfl

theorem Paired.drop {u : List Char} (h : Paired u) {n : Nat} (hn : ∀ c ∈ u.take n, c ≠ '\\') :
    Paired (u.drop n) := by
  induction h generalizing n with
  | nil =>
    rw [List.drop_nil]
    exact .nil
  | plain hquote hback hline hcs ih =>
    cases n with
    | zero => exact .plain hquote hback hline hcs
    | succ n =>
      apply ih
      intro c hc
      exact hn c (List.mem_cons_of_mem _ hc)
  | pair hline hcs =>
    cases n with
    | zero => exact .pair hline hcs
    | succ n => exact absurd rfl (hn '\\' List.mem_cons_self)

theorem Paired.drop_run {u : List Char} (h : Paired u) {p : Char → Bool} (hp : p '\\' = false)
    {n : Nat} {z : List Char} (hn : n ≤ runLength p (u ++ z)) (hle : n ≤ u.length) :
    Paired (u.drop n) := by
  apply h.drop
  intro c hc
  rintro rfl
  rw [← List.take_append_of_le_length hle] at hc
  have hback := of_mem_run hn hc
  rw [hp] at hback
  cases hback

theorem run_le_of_stops {p : Char → Bool} (hquote : p '"' = false) (hback : p '\\' = false)
    (u : List Char) {z : List Char} (hz : Stops z) : runLength p (u ++ z) ≤ u.length := by
  have hzero : runLength p z = 0 := by
    rcases hz with hz | ⟨tail, rfl, _⟩
    · obtain ⟨tail, rfl⟩ := List.head?_eq_some_iff.mp hz
      simp [runLength, hquote]
    · simp [runLength, hback]
  have hu := run_length_le p u
  rw [run_append, hzero]
  split <;> omega

theorem escape_length_some {c : Char} {cs : List Char} {n : Nat}
    (h : escapeLength? ('\\' :: c :: cs) = some n) :
    ∃ k, n = 2 + k ∧ k ≤ runLength isHexDigit cs := by
  obtain ⟨_, _, _, _, hcs, _, _, rfl⟩ := escape_some_digits h
  obtain ⟨rfl, rfl⟩ := List.cons.inj (List.cons.inj hcs).2
  exact ⟨_, rfl, Nat.min_le_right _ _⟩

theorem match_string_text {c : Char} (hc : isStringText c = true) (cs : List Char) :
    matchAt .string (c :: cs) = ⟨runLength isStringText (c :: cs), .emit .string⟩ := by
  have hrun : runLength? isStringText (c :: cs) = some (runLength isStringText (c :: cs)) := by
    rw [runLength?, runLength, List.takeWhile_cons, if_pos hc]
    rfl
  rw [matchAt, Mode.rules, stringRules, firstMatch?, List.findSome?_cons, Rule.match?,
    Pattern.matchLength?, hrun]
  rfl

theorem match_string_backslash (cs : List Char) :
    matchAt .string ('\\' :: cs) =
      match escapeLength? ('\\' :: cs), anyEscapeLength? ('\\' :: cs) with
      | some n, _ => ⟨n, .emit .stringEscape⟩
      | none, some n => ⟨n, .emit .stringEscapeInvalid⟩
      | none, none => ⟨1, .emit .invalid⟩ := by
  rw [matchAt, Mode.rules, stringRules, firstMatch?, List.findSome?_cons, Rule.match?]
  rw [List.findSome?_cons, Rule.match?, List.findSome?_cons, Rule.match?]
  simp only [Pattern.matchLength?]
  cases escapeLength? ('\\' :: cs) with
  | some n => rfl
  | none =>
    cases anyEscapeLength? ('\\' :: cs) with
    | some n => rfl
    | none => rfl

def Category.inString : Category → Bool
  | .string | .stringEscape | .stringEscapeInvalid => true
  | _ => false

theorem match_string_paired {u : List Char} (hu : Paired u) (hne : u ≠ []) (z : List Char) :
    ∃ n c, matchAt .string (u ++ z) = ⟨n, .emit c⟩ ∧ c.inString = true ∧
      (n ≤ u.length → Paired (u.drop n)) ∧ (Stops z → n ≤ u.length) := by
  cases hu with
  | nil => exact absurd rfl hne
  | @plain c cs hquote hback hline hcs =>
    -- A run of text stops at the next backslash, and what it leaves is paired.
    have htext : isStringText c = true := by simp [isStringText, hquote, hback]
    refine ⟨_, .string, match_string_text htext (cs ++ z), rfl, ?_, ?_⟩
    · intro hle
      exact (Paired.plain hquote hback hline hcs).drop_run rfl (Nat.le_refl _) hle
    · intro hz
      exact run_le_of_stops rfl rfl (c :: cs) hz
  | @pair c cs hline hcs =>
    rw [List.cons_append, List.cons_append, match_string_backslash]
    cases hescape : escapeLength? ('\\' :: c :: (cs ++ z)) with
    | some n =>
      obtain ⟨k, rfl, hk⟩ := escape_length_some hescape
      refine ⟨2 + k, .stringEscape, rfl, rfl, ?_, ?_⟩
      · intro hle
        rw [Nat.add_comm]
        simp only [List.length_cons] at hle
        exact hcs.drop_run (by decide) hk (by omega)
      · intro hz
        have hrun := run_le_of_stops (p := isHexDigit) (by decide) (by decide) cs hz
        simp only [List.length_cons]
        omega
    | none =>
      have hany : anyEscapeLength? ('\\' :: c :: (cs ++ z)) = some 2 := by
        rw [anyEscapeLength?, hline]
        rfl
      rw [hany]
      refine ⟨2, .stringEscapeInvalid, rfl, rfl, fun _ => hcs, fun _ => ?_⟩
      simp only [List.length_cons]
      omega

theorem match_string_broken {cs : List Char} (h : AtLineEnd cs) :
    matchAt .string ('\\' :: cs) = ⟨1, .emit .invalid⟩ := by
  rw [match_string_backslash, escape_none_of_line_end h, any_escape_none_iff.mpr h]

def Lexeme.InString (l : Lexeme) : Prop :=
  l.category.inString = true ∧ ∀ c ∈ l.text, isLineEnd c = false

/-- The string mode goes over a paired text to where the look ahead stops. -/
theorem scans_paired {s : ModeStack} (hs : s.current = .string) {u z : List Char} (hu : Paired u)
    (hz : Stops z) : ∃ parts, Scans s (u ++ z) parts s z ∧ ∀ l ∈ parts, l.InString := by
  by_cases hne : u = []
  · refine ⟨[], ?_, ?_⟩
    · rw [hne]
      exact .done s z
    · intro l hl
      cases hl
  · obtain ⟨n, c, hmatch, hc, hdrop, hstop⟩ := match_string_paired hu hne z
    have hle := hstop hz
    have hpos : 0 < n := by
      have hpos := match_at_pos .string (u ++ z)
      rwa [hmatch] at hpos
    have hlen := List.length_pos_iff.mpr hne
    obtain ⟨parts, hparts, hin⟩ := scans_paired hs (hdrop hle) hz
    rw [← hs] at hmatch
    rw [← List.drop_append_of_le_length hle] at hparts
    refine ⟨_, .emit (List.append_ne_nil_of_left_ne_nil hne z) hmatch hparts, ?_⟩
    intro l hl
    rcases List.mem_cons.mp hl with rfl | hl
    · refine ⟨hc, ?_⟩
      intro d hd
      rw [List.take_append_of_le_length hle] at hd
      exact hu.on_line d (List.mem_of_mem_take hd)
    · exact hin l hl
termination_by u.length
decreasing_by
  rw [List.length_drop]
  omega

/-! ## Runs that end outside strings -/

theorem match_le_of_scans {mode : Mode} {s s' : ModeStack} {w v z : List Char} {ls : List Lexeme}
    (hne : w ++ v ≠ []) (h : Scans s ((w ++ v).drop (matchAt mode (w ++ v)).length) ls s' z)
    (hz : v.length ≤ z.length) : (matchAt mode (w ++ v)).length ≤ w.length ∧ w ≠ [] := by
  have hpos := match_at_pos mode (w ++ v)
  have hle := match_at_le mode hne
  have hlen := h.length_le
  rw [List.length_drop, List.length_append] at hlen
  rw [List.length_append] at hle
  constructor
  · omega
  · rintro rfl
    rw [List.length_nil] at hle hlen
    omega

theorem Scans.stays_in_string {s s' : ModeStack} {cs z : List Char} {ls : List Lexeme}
    (h : Scans s cs ls s' z) {u v : List Char} (hs : s = .inString) (hu : Paired u)
    (hcs : cs = u ++ v) (hz : v.length ≤ z.length) : s' ≠ .base := by
  induction h generalizing u with
  | done s =>
    rw [hs]
    decide
  | @step s s' cs z ls m hne hm htail ih =>
    subst hs hcs hm
    obtain ⟨hle, hu_ne⟩ := match_le_of_scans hne htail hz
    obtain ⟨n, c, hmatch, _, hdrop, _⟩ := match_string_paired hu hu_ne v
    have hmatch : matchAt ModeStack.inString.current (u ++ v) = ⟨n, .emit c⟩ := hmatch
    rw [hmatch] at hle ih
    exact ih rfl (hdrop hle) (List.drop_append_of_le_length hle) hz

/-- A match on the way to `z`, where the run is out of every string. The lexemes are those
behind the match. -/
structure OnTheWay (z : List Char) (s : ModeStack) (w : List Char) (ls : List Lexeme) : Prop where
  shallow : s.Shallow
  ne_nil : w ≠ []
  within : (matchAt s.current (w ++ z)).length ≤ w.length
  behind : Scans ((matchAt s.current (w ++ z)).action.modes s)
    ((w ++ z).drop (matchAt s.current (w ++ z)).length) ls .base z

/-- The look ahead from a quote that fails on the way does not see what stands at the end of
it, but for whether the line ends there. -/
theorem OnTheWay.open_string {z z' w : List Char} {s : ModeStack} {ls : List Lexeme}
    (h : OnTheWay z s w ls) (hz : AtLineEnd z → AtLineEnd z') (hroot : s.current = .root)
    (hn : openStringLength? (w ++ z) = none) : openStringLength? (w ++ z') = none := by
  obtain ⟨c, body, rfl⟩ := List.exists_cons_of_ne_nil h.ne_nil
  have htail := h.behind
  rw [h.shallow.eq_base hroot, ModeStack.current_base] at htail
  rw [List.cons_append] at hn htail ⊢
  by_cases hc : c = '"'
  · subst hc
    rw [open_string_eq, headed_cons, Option.map_eq_none_iff] at hn ⊢
    rw [match_root_quote, hn] at htail
    obtain ⟨u, v, rfl, hu, hv⟩ := exists_paired body
    rw [List.append_assoc, open_body_append hu, Option.map_eq_none_iff] at hn ⊢
    by_cases hend : v = []
    · -- All of the text to `z` is paired, and the run would still be in the string there.
      rw [hend, List.append_nil] at htail
      exact absurd rfl (htail.stays_in_string rfl hu rfl (Nat.le_refl _))
    rcases hv with hline | hquote | ⟨tail, rfl, htail_end⟩
    · rw [open_body_at_line_end (hline.extend hend z)] at hn
      cases hn
    · obtain ⟨tail, rfl⟩ := List.head?_eq_some_iff.mp hquote
      exact open_body_stops (.inl rfl)
    · cases tail with
      | cons d tail =>
        exact open_body_stops (.inr ⟨_, rfl, htail_end.extend (List.cons_ne_nil d tail) z'⟩)
      | nil =>
        by_cases hzline : AtLineEnd z
        · exact open_body_stops (.inr ⟨_, rfl, hz hzline⟩)
        · -- The backslash takes the first character of `z` along, past the end of the run.
          obtain ⟨d, tail, rfl, hline⟩ := not_at_line_end hzline
          have hpair : Paired (u ++ ['\\', d]) := hu.append (.pair hline .nil)
          have hcs : u ++ ['\\'] ++ d :: tail = u ++ ['\\', d] ++ tail := by simp
          exact absurd rfl (htail.stays_in_string rfl hpair hcs (Nat.le_succ _))
  · rw [open_string_eq, headed, byHead, if_neg hc]
    rfl

theorem Scans.transfer {s s' : ModeStack} {cs z z' : List Char} {ls : List Lexeme}
    (h : Scans s cs ls s' z) (hs : s.Shallow) (hend : s' = .base)
    (hmatch : ∀ s w behind, OnTheWay z s w behind →
      (matchAt s.current (w ++ z)).action.lexemes
        ((w ++ z).take (matchAt s.current (w ++ z)).length) ++ behind <:+ ls →
      matchAt s.current (w ++ z') = matchAt s.current (w ++ z))
    {w : List Char} (hcs : cs = w ++ z) : Scans s (w ++ z') ls .base z' := by
  induction h generalizing w with
  | done s z =>
    rw [List.self_eq_append_left.mp hcs, hend]
    exact .done .base z'
  | @step s s' cs z ls m hne hm htail ih =>
    subst hcs hm hend
    obtain ⟨hle, hw⟩ := match_le_of_scans hne htail (Nat.le_refl _)
    have hsame := hmatch s w ls ⟨hs, hw, hle, htail⟩ (List.suffix_refl _)
    have hrest := ih (hs.step _) rfl
      (fun s w behind hway hsuffix =>
        hmatch s w behind hway (hsuffix.trans (List.suffix_append _ _)))
      (List.drop_append_of_le_length hle)
    rw [← List.drop_append_of_le_length hle] at hrest
    have hstep := Scans.step (List.append_ne_nil_of_left_ne_nil hw z') hsame hrest
    rw [List.take_append_of_le_length hle] at hstep ⊢
    exact hstep

end ArmTokens
