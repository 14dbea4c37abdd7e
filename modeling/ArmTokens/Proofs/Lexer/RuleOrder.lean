import ArmTokens.Proofs.Lexer.Fallback
import ArmTokens.Proofs.Pattern.Overlap

/-!
# What the order of the rules decides

Of two rules of a mode that match the same text, one has to be tried first. As
long as no rule stands before one that has to be tried before it, the rules find
the same match in whatever order they stand. Where one does, some text tells.
-/

set_option autoImplicit false

namespace ArmTokens

/-- No rule stands before one that has to be tried before it. -/
def InOrder (rules : List Rule) : Prop :=
  rules.Pairwise fun r s => s.pattern.precedes r.pattern = false

instance (rules : List Rule) : Decidable (InOrder rules) :=
  inferInstanceAs (Decidable (rules.Pairwise fun r s => s.pattern.precedes r.pattern = false))

theorem rules_in_order (mode : Mode) : InOrder mode.rules := by
  cases mode <;> decide

theorem rules_nodup (mode : Mode) : mode.rules.Nodup := by
  cases mode <;> decide

theorem rule_unique {mode : Mode} {r s : Rule} (hr : r ∈ mode.rules) (hs : s ∈ mode.rules)
    (h : r.pattern = s.pattern ∨ r.action = s.action) : r = s := by
  have hall : ∀ mode : Mode, ∀ r ∈ mode.rules, ∀ s ∈ mode.rules,
      r.pattern = s.pattern ∨ r.action = s.action → r = s := by
    intro mode
    cases mode <;> decide
  exact hall mode r hr s hs h

def Pattern.settledWith (p q : Pattern) : Bool :=
  p == q || p.precedes q || q.precedes p || p.partsFrom q || q.partsFrom p

def Mode.rulesAt (mode : Mode) (c : Char) : List Rule := mode.rules.filter (·.pattern.opens c)

theorem settled_at_ascii (mode : Mode) {c : Char} (hc : c.toNat < 128) :
    ∀ r ∈ mode.rulesAt c, ∀ s ∈ mode.rulesAt c, r.pattern.settledWith s.pattern = true := by
  apply of_ascii (P := fun c =>
    ∀ r ∈ mode.rulesAt c, ∀ s ∈ mode.rulesAt c, r.pattern.settledWith s.pattern = true) _ hc
  cases mode <;> decide +kernel

theorem settled_of_opens {mode : Mode} {r s : Rule} (hr : r ∈ mode.rules) (hs : s ∈ mode.rules)
    {c : Char} (hrc : r.pattern.opens c = true) (hsc : s.pattern.opens c = true) :
    r.pattern.settledWith s.pattern = true := by
  by_cases hascii : c.toNat < 128
  · exact settled_at_ascii mode hascii r (List.mem_filter.mpr ⟨hr, hrc⟩) s
      (List.mem_filter.mpr ⟨hs, hsc⟩)
  · -- Only one pattern begins with characters beyond ASCII.
    have htext : ∀ p : Pattern, p.opens c = true → p = .stringText := fun p hp =>
      Decidable.byContradiction fun hne => hascii (Pattern.ascii_only_opens hne c hp)
    rw [htext _ hrc, htext _ hsc]
    rfl

theorem exists_length {r : Rule} {cs : List Char} (h : r.match? cs ≠ none) :
    ∃ n, r.pattern.matchLength? cs = some n := by
  rwa [Rule.match?, ne_eq, Option.map_eq_none_iff, ← ne_eq, Option.ne_none_iff_exists'] at h

theorem precedes_of_meet {mode : Mode} {r s : Rule} (hr : r ∈ mode.rules) (hs : s ∈ mode.rules)
    (hne : r ≠ s) {cs : List Char} (hrm : r.match? cs ≠ none) (hsm : s.match? cs ≠ none) :
    r.pattern.precedes s.pattern = true ∨ s.pattern.precedes r.pattern = true := by
  obtain ⟨m, hm⟩ := exists_length hrm
  obtain ⟨n, hn⟩ := exists_length hsm
  obtain ⟨c, hc, hrc⟩ := r.pattern.opens_in cs m hm
  obtain ⟨d, hd, hsd⟩ := s.pattern.opens_in cs n hn
  obtain rfl := Option.mem_unique hc hd
  have hnot : ¬Apart r.pattern.matchLength? s.pattern.matchLength? := by
    intro hapart
    have hone := hapart cs
    rw [hm, hn] at hone
    exact hone.elim nofun nofun
  have hsettled := settled_of_opens hr hs hrc hsd
  simp only [Pattern.settledWith, Bool.or_eq_true, beq_iff_eq] at hsettled
  rcases hsettled with (((hsame | hfirst) | hfirst) | hparts) | hparts
  · exact absurd (rule_unique hr hs (.inl hsame)) hne
  · exact .inl hfirst
  · exact .inr hfirst
  · exact absurd (Pattern.apart_of_parts_from hparts) hnot
  · exact absurd (Pattern.apart_of_parts_from hparts).symm hnot

theorem not_precedes_first {rules before behind : List Rule} {r s : Rule} {cs : List Char}
    (h : InOrder rules) (hsplit : rules = before ++ s :: behind)
    (hbefore : ∀ q ∈ before, q.match? cs = none) (hr : r ∈ rules) (hne : r ≠ s)
    (hm : r.match? cs ≠ none) : r.pattern.precedes s.pattern = false := by
  subst hsplit
  rcases List.mem_append.mp hr with hr | hr
  · exact absurd (hbefore r hr) hm
  · rcases List.mem_cons.mp hr with heq | hr
    · exact absurd heq hne
    · exact (List.pairwise_cons.mp (List.pairwise_append.mp h).2.1).1 r hr

theorem first_match_of_in_order {mode : Mode} {rules : List Rule} (hperm : rules.Perm mode.rules)
    (horder : InOrder rules) (cs : List Char) :
    firstMatch? rules cs = firstMatch? mode.rules cs := by
  cases hm : firstMatch? mode.rules cs with
  | none =>
    rw [first_match_none_iff] at hm ⊢
    intro r hr
    exact hm r (hperm.mem_iff.mp hr)
  | some m =>
    obtain ⟨before, r, behind, hsplit, hr, hbefore⟩ := List.findSome?_eq_some_iff.mp hm
    have hrmode : r ∈ mode.rules := hsplit ▸ List.mem_append_right _ List.mem_cons_self
    cases hn : firstMatch? rules cs with
    | none =>
      have hnone := List.findSome?_eq_none_iff.mp hn r (hperm.mem_iff.mpr hrmode)
      cases hnone.symm.trans hr
    | some n =>
      obtain ⟨before', s, behind', hsplit', hs, hbefore'⟩ := List.findSome?_eq_some_iff.mp hn
      have hsrules : s ∈ rules := hsplit' ▸ List.mem_append_right _ List.mem_cons_self
      have hsmode := hperm.mem_iff.mp hsrules
      have hsame : r = s := by
        apply Decidable.byContradiction
        intro hne
        have hrm : r.match? cs ≠ none := by rw [hr]; nofun
        have hsm : s.match? cs ≠ none := by rw [hs]; nofun
        have hrs := not_precedes_first horder hsplit' hbefore' (hperm.mem_iff.mpr hrmode) hne hrm
        have hsr := not_precedes_first (rules_in_order mode) hsplit hbefore hsmode (Ne.symm hne) hsm
        have hmeet := precedes_of_meet hrmode hsmode hne hrm hsm
        rw [hrs, hsr] at hmeet
        exact hmeet.elim nofun nofun
      rw [← hr, ← hs, hsame]

/-- Texts that two rules of a mode match. -/
def contested : List (List Char) :=
  [['-', '0', 'x', '0'], ['-', '0', 'b', '0'], ['#', '0', 'x', '0'], ['#', '0', 'b', '0'],
   ['0', 'x', '0'], ['0', 'b', '0'], ['"'], ['\'', 'a', '\''], ['\'', '\\', 'n', '\''],
   ['\\', 'n']]

/-- Where one rule has to be tried before another, it decides on some text that both match. -/
theorem contested_of_precedes {mode : Mode} {r s : Rule} (hr : r ∈ mode.rules)
    (hs : s ∈ mode.rules) (h : r.pattern.precedes s.pattern = true) :
    ∃ cs ∈ contested, firstMatch? mode.rules cs = r.match? cs ∧ r.match? cs ≠ none ∧
      s.match? cs ≠ none := by
  have hall : ∀ mode : Mode, ∀ r ∈ mode.rules, ∀ s ∈ mode.rules,
      r.pattern.precedes s.pattern = true → ∃ cs ∈ contested,
        firstMatch? mode.rules cs = r.match? cs ∧ r.match? cs ≠ none ∧ s.match? cs ≠ none := by
    intro mode
    cases mode <;> decide +kernel
  exact hall mode r hr s hs h

theorem in_order_of_first_match {mode : Mode} {rules : List Rule} (hperm : rules.Perm mode.rules)
    (hsame : ∀ cs, firstMatch? rules cs = firstMatch? mode.rules cs) : InOrder rules := by
  rw [InOrder, List.pairwise_iff_forall_sublist]
  intro s r hsub
  rw [← Bool.not_eq_true]
  intro hprecedes
  obtain ⟨front, back, rfl, hs, hback⟩ := List.cons_sublist_iff.mp hsub
  have hr := List.singleton_sublist.mp hback
  have hrmode := hperm.mem_iff.mp (List.mem_append_right front hr)
  have hsmode := hperm.mem_iff.mp (List.mem_append_left back hs)
  obtain ⟨cs, _, hfirst, hrm, hsm⟩ := contested_of_precedes hrmode hsmode hprecedes
  -- A rule of the front decides on this text, and it is not the one that has to decide.
  cases hm : firstMatch? front cs with
  | none => exact hsm (List.findSome?_eq_none_iff.mp hm s hs)
  | some m =>
    have hfound : firstMatch? (front ++ back) cs = some m := by
      rw [firstMatch?, List.findSome?_append, ← firstMatch?, hm]
      rfl
    rw [hsame cs, hfirst] at hfound
    obtain ⟨q, hq, hqm⟩ := List.exists_of_findSome?_eq_some hm
    obtain ⟨k, _, hk⟩ := Option.map_eq_some_iff.mp hfound
    obtain ⟨l, _, hl⟩ := Option.map_eq_some_iff.mp hqm
    have haction : q.action = r.action := congrArg Match.action (hl.trans hk.symm)
    obtain rfl :=
      rule_unique (hperm.mem_iff.mp (List.mem_append_left back hq)) hrmode (.inr haction)
    have hnodup := (hperm.nodup_iff).mpr (rules_nodup mode)
    exact (List.nodup_append.mp hnodup).2.2 q hq q hr rfl

/-- A new order of the rules of a mode finds the same matches exactly when no rule is tried before
one that has to be tried before it. No two other rules of a mode match the same text. -/
theorem rule_order_decides :
    (∀ (mode : Mode) (rules : List Rule), rules.Perm mode.rules →
      ((∀ cs, firstMatch? rules cs = firstMatch? mode.rules cs) ↔ InOrder rules)) ∧
    ∀ (mode : Mode), ∀ r ∈ mode.rules, ∀ s ∈ mode.rules, r ≠ s →
      ((∃ cs, r.match? cs ≠ none ∧ s.match? cs ≠ none) ↔
        r.pattern.precedes s.pattern = true ∨ s.pattern.precedes r.pattern = true) := by
  constructor
  · intro mode rules hperm
    exact ⟨in_order_of_first_match hperm, first_match_of_in_order hperm⟩
  · intro mode r hr s hs hne
    constructor
    · rintro ⟨cs, hrm, hsm⟩
      exact precedes_of_meet hr hs hne hrm hsm
    · rintro (h | h)
      · obtain ⟨cs, _, _, hrm, hsm⟩ := contested_of_precedes hr hs h
        exact ⟨cs, hrm, hsm⟩
      · obtain ⟨cs, _, _, hsm, hrm⟩ := contested_of_precedes hs hr h
        exact ⟨cs, hrm, hsm⟩

theorem rule_order_decides_rotated :
    (rootRules.drop 13 ++ rootRules.take 13).Perm Mode.root.rules ∧
    InOrder (rootRules.drop 13 ++ rootRules.take 13) ∧
    (∀ cs, firstMatch? (rootRules.drop 13 ++ rootRules.take 13) cs =
      firstMatch? Mode.root.rules cs) ∧
    ∃ cs, Rule.match? ⟨.openString, .emit .stringInvalid⟩ cs ≠ none ∧
      Rule.match? ⟨.doubleQuote, .enter .stringQuoteOpen .string⟩ cs ≠ none := by
  have hperm : (rootRules.drop 13 ++ rootRules.take 13).Perm Mode.root.rules := by decide
  have horder : InOrder (rootRules.drop 13 ++ rootRules.take 13) := by decide
  exact ⟨hperm, horder, (rule_order_decides.1 .root _ hperm).mpr horder,
    (rule_order_decides.2 .root _ (by decide) _ (by decide) (by decide)).mpr (.inl rfl)⟩

end ArmTokens
