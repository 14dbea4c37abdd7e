import ArmTokens.Proofs.Pattern.Locality

/-!
# Comments and what stands before them

A comment is its leader and everything up to the end of the line. A pattern that
is tried before the comment sees the leader at most: its match cannot hold a
character of the leader, or is too short to get behind it. Only a `;` between two
single quotes is taken as a character, and whether it is stands in the body.
-/

set_option autoImplicit false

namespace ArmTokens

def leaders : List (List Char) := [[';'], ['>', '>', ';'], ['>', '>', '-']]

theorem leader_head {leader : List Char} (h : leader ∈ leaders) :
    ∃ d tail, leader = d :: tail ∧ (d = ';' ∨ d = '>') := by
  simp only [leaders, List.mem_cons, List.not_mem_nil, or_false] at h
  rcases h with rfl | rfl | rfl
  · exact ⟨';', [], rfl, .inl rfl⟩
  · exact ⟨'>', ['>', ';'], rfl, .inr rfl⟩
  · exact ⟨'>', ['>', '-'], rfl, .inr rfl⟩

theorem leader_length_pos {leader : List Char} (h : leader ∈ leaders) : 0 < leader.length := by
  obtain ⟨d, tail, rfl, _⟩ := leader_head h
  exact Nat.succ_pos _

theorem line_none_iff {leader cs : List Char} :
    Pattern.lineLength? leader cs = none ↔ ¬ leader <+: cs := by
  rw [Pattern.lineLength?, ← List.isPrefixOf_iff_prefix]
  split
  · next h => simp [h]
  · next h => simp [h]

theorem run_to_line_end {body behind : List Char} (hbody : ∀ d ∈ body, isLineEnd d = false)
    (hend : AtLineEnd behind) : runLength (fun d => !isLineEnd d) (body ++ behind) = body.length :=
  run_exact (fun d hd => congrArg not (hbody d hd)) fun d hd => congrArg not (hend d hd)

theorem line_eq_some_iff {leader cs : List Char} {n : Nat} :
    Pattern.lineLength? leader cs = some n ↔
      ∃ body behind, cs = leader ++ (body ++ behind) ∧ (leader ++ body).length = n ∧
        (∀ d ∈ body, isLineEnd d = false) ∧ AtLineEnd behind := by
  constructor
  · intro h
    simp only [Pattern.lineLength?, Option.ite_none_right_eq_some, Option.some.injEq] at h
    obtain ⟨hbegin, hn⟩ := h
    obtain ⟨tail, rfl⟩ := List.isPrefixOf_iff_prefix.mp hbegin
    rw [List.drop_left, runLength] at hn
    refine ⟨tail.takeWhile fun d => !isLineEnd d, tail.dropWhile fun d => !isLineEnd d,
      by rw [List.takeWhile_append_dropWhile], by rw [List.length_append, hn], ?_, ?_⟩
    · intro d hd
      simpa using List.all_eq_true.mp List.all_takeWhile d hd
    · intro d hd
      have hhead := List.head?_dropWhile_not (fun d => !isLineEnd d) tail
      rw [Option.mem_def.mp hd] at hhead
      simpa using hhead
  · rintro ⟨body, behind, rfl, rfl, hbody, hend⟩
    rw [Pattern.lineLength?, if_pos (List.isPrefixOf_iff_prefix.mpr (List.prefix_append _ _)),
      List.drop_left, run_to_line_end hbody hend, List.length_append]

theorem line_none_behind {leader other : List Char} (hl : leader ∈ leaders) (ho : other ∈ leaders)
    {u b b' : List Char} (hu : u ≠ []) (hn : Pattern.lineLength? other (u ++ leader ++ b) = none) :
    Pattern.lineLength? other (u ++ leader ++ b') = none := by
  have hinside : ∀ other ∈ leaders, ∀ leader ∈ leaders, ∀ k < other.length,
      leader <:+ other.take k → k ≤ leader.length := by decide
  rw [line_none_iff] at hn ⊢
  intro hbegin
  by_cases hlen : other.length ≤ (u ++ leader).length
  · have hshort := List.prefix_of_prefix_length_le hbegin (List.prefix_append _ _) hlen
    exact hn (hshort.trans (List.prefix_append _ _))
  · have hlong := List.prefix_of_prefix_length_le (List.prefix_append (u ++ leader) b') hbegin
      (by omega)
    have htake := List.prefix_iff_eq_take.mp hlong
    have hle := hinside other ho leader hl _ (by omega) (htake ▸ List.suffix_append u leader)
    rw [List.length_append] at hle
    exact hu (List.eq_nil_of_length_eq_zero (by omega))

/-- A character literal that gets behind a leader is a `;` between two quotes. -/
theorem char_literal_behind {leader : List Char} (hl : leader ∈ leaders) {u b : List Char}
    (hu : u ≠ []) {n : Nat} (h : charLiteralLength? (u ++ leader ++ b) = some n)
    (hlt : (u ++ leader).length < n) :
    u = ['\''] ∧ leader = [';'] ∧ b.head? = some '\'' := by
  have hone : ∀ leader ∈ leaders, leader.length = 1 → leader = [';'] := by decide
  obtain ⟨c, tail, htext, rfl⟩ := char_literal_some h
  have hpos := List.length_pos_iff.mpr hu
  have hleader := leader_length_pos hl
  rw [List.length_append] at hlt
  obtain ⟨q, rfl⟩ := List.length_eq_one_iff.mp (show u.length = 1 by omega)
  obtain rfl := hone leader hl (by omega)
  obtain ⟨rfl, hbehind⟩ := List.cons.inj htext
  obtain ⟨_, hb⟩ := List.cons.inj hbehind
  refine ⟨rfl, rfl, ?_⟩
  rw [show b = '\'' :: tail from hb]
  rfl

/-- Where a pattern fails on a text with a leader in it, it fails whatever stands behind the
leader. Left out are a `;` between two quotes and the look ahead for an open string. -/
theorem Pattern.none_behind {p : Pattern} (hp : p ≠ .openString) {leader : List Char}
    (hl : leader ∈ leaders) {u b b' : List Char} (hu : u ≠ [])
    (hquote : p = .charLiteral → ¬ (u = ['\''] ∧ leader = [';'] ∧ b'.head? = some '\''))
    (hn : p.matchLength? (u ++ leader ++ b) = none) :
    p.matchLength? (u ++ leader ++ b') = none := by
  cases hm : p.matchLength? (u ++ leader ++ b') with
  | none => rfl
  | some n =>
    by_cases hle : n ≤ (u ++ leader).length
    · have hshort := p.settles.cut hm hle
      rw [none_of_append hp hn] at hshort
      cases hshort
    · obtain ⟨d, tail, hd, hhead⟩ := leader_head hl
      have hpos := List.length_pos_iff.mpr hu
      have hleader := leader_length_pos hl
      have hmem : d ∈ (u ++ leader ++ b').take n := by
        rw [List.take_append, List.take_of_length_le (by omega), hd]
        simp
      have hout : p.holds d = true := by
        rw [← Bool.not_eq_false]
        exact fun hfalse => avoids hfalse _ _ hm hmem
      cases p with
      | openString => exact absurd rfl hp
      | charLiteral => exact absurd (char_literal_behind hl hu hm (by omega)) (hquote rfl)
      | anyEscape =>
        have htwo := any_escape_some hm
        rw [List.length_append] at hle
        omega
      | comment => exact hm.symm.trans (line_none_behind hl (by decide) hu hn)
      | expectPass => exact hm.symm.trans (line_none_behind hl (by decide) hu hn)
      | expectFail => exact hm.symm.trans (line_none_behind hl (by decide) hu hn)
      | stringText =>
        obtain ⟨c, tail, rfl⟩ := List.exists_cons_of_ne_nil hu
        exact hm.symm.trans (run_none_iff.mpr (run_none_iff.mp hn))
      | immediate r => rcases hhead with rfl | rfl <;> cases r <;> cases hout
      | bare r => rcases hhead with rfl | rfl <;> cases r <;> cases hout
      | _ => rcases hhead with rfl | rfl <;> cases hout

end ArmTokens
