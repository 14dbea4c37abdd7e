import ArmTokens.Proofs.Pattern.Greedy

/-!
# What stands in front of a text

Every pattern fails before a character that it does not begin with. For some
patterns this first character is all that decides. The others go on to look at
what stands behind it, and take the longest front of their form when they take
such fronts only and miss none.
-/

set_option autoImplicit false

namespace ArmTokens

/-- The longest of all texts with the property that `cs` begins with. -/
structure LongestFront (P : List Char → Prop) (u cs : List Char) : Prop where
  front : u <+: cs
  has : P u
  longest : ∀ v, v <+: cs → P v → v.length ≤ u.length

theorem LongestFront.take {P : List Char → Prop} {u cs : List Char} (h : LongestFront P u cs) :
    cs.take u.length = u := (List.prefix_iff_eq_take.mp h.front).symm

section Longest

variable {P : List Char → Prop} {f : List Char → Option Nat}
  (sound : ∀ cs n, f cs = some n → n ≤ cs.length ∧ P (cs.take n))
  (complete : ∀ u z, P u → ∃ n, f (u ++ z) = some n ∧ u.length ≤ n)

include sound complete

/-- A matcher whose matches have the property takes the longest front when it goes over every
text with the property. -/
theorem longest_front_iff {cs : List Char} {n : Nat} :
    f cs = some n ↔ ∃ u, LongestFront P u cs ∧ u.length = n := by
  constructor
  · intro h
    obtain ⟨hle, hP⟩ := sound cs n h
    have hlen : (cs.take n).length = n := List.length_take_of_le hle
    refine ⟨cs.take n, ⟨List.take_prefix n cs, hP, ?_⟩, hlen⟩
    rintro v ⟨z, rfl⟩ hv
    obtain ⟨m, hm, hover⟩ := complete v z hv
    obtain rfl := Option.some.inj (h.symm.trans hm)
    rwa [hlen]
  · rintro ⟨u, ⟨⟨z, rfl⟩, hu, hlongest⟩, rfl⟩
    obtain ⟨n, hn, hover⟩ := complete u z hu
    obtain ⟨hle, hP⟩ := sound _ n hn
    have hshort := hlongest _ (List.take_prefix n _) hP
    rw [List.length_take_of_le hle] at hshort
    rw [hn, Nat.le_antisymm hover hshort]

theorem front_some_iff {cs : List Char} :
    (f cs).isSome = true ↔ ∃ u, u <+: cs ∧ P u := by
  rw [Option.isSome_iff_exists]
  constructor
  · rintro ⟨n, hn⟩
    exact ⟨cs.take n, List.take_prefix n cs, (sound cs n hn).2⟩
  · rintro ⟨u, ⟨z, rfl⟩, hu⟩
    obtain ⟨n, hn, _⟩ := complete u z hu
    exact ⟨n, hn⟩

end Longest

namespace Pattern

theorem none_of_head {p : Pattern} {c : Char} (h : p.opens c = false) (cs : List Char) :
    p.matchLength? (c :: cs) = none := by
  cases hm : p.matchLength? (c :: cs) with
  | none => rfl
  | some n =>
    obtain ⟨d, hd, hopens⟩ := p.opens_in _ n hm
    obtain rfl := Option.some.inj hd
    exact Bool.noConfusion (h.symm.trans hopens)

/-- The first character decides whether the pattern matches. -/
def toldByHead : Pattern → Bool
  | .identifier | .whitespace | .bracket | .symbols | .delimiter | .doubleQuote | .singleQuote
  | .comment | .stringText => true
  | _ => false

theorem none_iff_of_told {p : Pattern} (hp : p.toldByHead = true) {c : Char} {cs : List Char} :
    p.matchLength? (c :: cs) = none ↔ p.opens c = false := by
  refine ⟨?_, fun h => none_of_head h cs⟩
  cases p with
  | identifier =>
    intro h
    rw [matchLength?, identifierLength?] at h
    cases hc : isIdentifierStart c with
    | false => exact hc
    | true => simp [hc] at h
  | whitespace => exact run_none_iff.mp
  | bracket => exact (one_of_none_iff cs).mp
  | symbols => exact run_none_iff.mp
  | delimiter => exact (one_of_none_iff cs).mp
  | doubleQuote => exact (one_of_none_iff cs).mp
  | singleQuote => exact (one_of_none_iff cs).mp
  | comment =>
    intro h
    rw [opens, beq_eq_false_iff_ne]
    rintro rfl
    exact absurd h (by simp [matchLength?, lineLength?])
  | stringText => exact run_none_iff.mp
  | _ => cases hp

end Pattern

end ArmTokens
