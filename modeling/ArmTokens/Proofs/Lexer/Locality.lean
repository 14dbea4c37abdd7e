import ArmTokens.Proofs.Lexer.Run
import ArmTokens.Proofs.Pattern.Locality

/-!
# What a match and a run depend on

A match is carried over from one text to another when the rule that decided
still matches there and the rules before it still do not. From the bottom of the
mode stack a run never gets further than into one string.
-/

set_option autoImplicit false

namespace ArmTokens

theorem first_match_transfer {rules : List Rule} {cs ds : List Char} {m : Match} {P : Nat → Prop}
    (keep : ∀ r ∈ rules, r.pattern.matchLength? cs = some m.length →
      ∃ n, r.pattern.matchLength? ds = some n ∧ P n)
    (skip : ∀ r ∈ rules, r.pattern.matchLength? cs = none → r.pattern.matchLength? ds = none)
    (h : firstMatch? rules cs = some m) :
    ∃ n, firstMatch? rules ds = some ⟨n, m.action⟩ ∧ P n := by
  induction rules with
  | nil => cases h
  | cons r rules ih =>
    rw [firstMatch?, List.findSome?_cons, Rule.match?] at h ⊢
    cases hr : r.pattern.matchLength? cs with
    | some n =>
      rw [hr, Option.map_some, Option.some.injEq] at h
      subst h
      obtain ⟨n', hn', hp⟩ := keep r List.mem_cons_self hr
      rw [hn']
      exact ⟨n', rfl, hp⟩
    | none =>
      rw [hr] at h
      rw [skip r List.mem_cons_self hr]
      apply ih _ _ h
      · intro r' hr'
        exact keep r' (List.mem_cons_of_mem r hr')
      · intro r' hr'
        exact skip r' (List.mem_cons_of_mem r hr')

theorem match_at_transfer {mode : Mode} {cs ds : List Char} {P : Nat → Prop}
    (self : P (matchAt mode cs).length)
    (keep : ∀ r ∈ mode.rules, r.pattern.matchLength? cs = some (matchAt mode cs).length →
      ∃ n, r.pattern.matchLength? ds = some n ∧ P n)
    (skip : ∀ r ∈ mode.rules, r.pattern.matchLength? cs = none →
      r.pattern.matchLength? ds = none) :
    ∃ n, matchAt mode ds = ⟨n, (matchAt mode cs).action⟩ ∧ P n := by
  unfold matchAt at self keep ⊢
  cases h : firstMatch? mode.rules cs with
  | some m =>
    rw [h, Option.getD_some] at keep
    obtain ⟨n, hn, hp⟩ := first_match_transfer keep skip h
    rw [hn]
    exact ⟨n, rfl, hp⟩
  | none =>
    have hnone : firstMatch? mode.rules ds = none := by
      rw [first_match_none_iff] at h ⊢
      intro r hr
      exact skip r hr (h r hr)
    rw [h] at self
    rw [hnone]
    exact ⟨1, rfl, self⟩

theorem match_at_eq {mode : Mode} {cs ds : List Char}
    (keep : ∀ r ∈ mode.rules, r.pattern.matchLength? cs = some (matchAt mode cs).length →
      r.pattern.matchLength? ds = some (matchAt mode cs).length)
    (skip : ∀ r ∈ mode.rules, r.pattern.matchLength? cs = none →
      r.pattern.matchLength? ds = none) :
    matchAt mode ds = matchAt mode cs := by
  obtain ⟨n, hn, rfl⟩ := match_at_transfer (P := (· = (matchAt mode cs).length)) rfl
    (fun r hr h => ⟨_, keep r hr h, rfl⟩) skip
  exact hn

theorem root_of_pattern {mode : Mode} {r : Rule} (hr : r ∈ mode.rules)
    (h : r.pattern = .openString ∨ r.pattern = .charLiteral) : mode = .root := by
  have hall : ∀ mode : Mode, ∀ r ∈ mode.rules,
      r.pattern = .openString ∨ r.pattern = .charLiteral → mode = .root := by
    intro mode
    cases mode <;> decide
  exact hall mode r hr h

/-- A match that ends before the cut is found in the text that is cut. -/
theorem match_at_cut {mode : Mode} {w z : List Char}
    (hle : (matchAt mode (w ++ z)).length ≤ w.length)
    (hopen : mode = .root → openStringLength? (w ++ z) = none → openStringLength? w = none) :
    matchAt mode w = matchAt mode (w ++ z) := by
  apply match_at_eq
  · intro r hr hn
    exact r.pattern.settles.cut hn hle
  · intro r hr hn
    by_cases hp : r.pattern = .openString
    · rw [hp] at hn ⊢
      exact hopen (root_of_pattern hr (.inl hp)) hn
    · exact Pattern.none_of_append hp hn

namespace ModeStack

def inString : ModeStack := base.push .string

/-- Every stack that a run from the bottom gets to. -/
def Shallow (s : ModeStack) : Prop := s = base ∨ s = inString

theorem Shallow.eq_base {s : ModeStack} (h : s.Shallow) (hroot : s.current = .root) : s = base := by
  rcases h with rfl | rfl
  · rfl
  · cases hroot

theorem Shallow.step {s : ModeStack} (h : s.Shallow) (cs : List Char) :
    ((matchAt s.current cs).action.modes s).Shallow := by
  have hroot : ∀ r ∈ Mode.root.rules,
      r.action.modes base = base ∨ r.action.modes base = inString := by decide
  have hstring : ∀ r ∈ Mode.string.rules,
      r.action.modes inString = base ∨ r.action.modes inString = inString := by decide
  rcases match_at_cases s.current cs with ⟨r, hr, _, hact⟩ | ⟨_, hm⟩
  · rw [hact]
    rcases h with rfl | rfl
    · exact hroot r hr
    · exact hstring r hr
  · rw [hm]
    exact h

end ModeStack

theorem Scans.shallow {s s' : ModeStack} {cs rest : List Char} {ls : List Lexeme}
    (h : Scans s cs ls s' rest) (hs : s.Shallow) : s'.Shallow := by
  induction h with
  | done => exact hs
  | @step s _ cs _ _ _ _ hm _ ih =>
    subst hm
    exact ih (hs.step cs)

end ArmTokens
