import ArmTokens.Proofs.Bytes.Encoding
import ArmTokens.Proofs.Pattern.Opening
import ArmTokens.Proofs.Pattern.Quoted

/-!
# How escapes are written

An escape is a backslash with a letter or a sign, or with the hex digits that
its letter asks for. Of all escapes in front of a text the longest is taken. A
quote is no hex digit, so the escape in front of a quote is the longest one.
-/

set_option autoImplicit false

namespace ArmTokens

def escapeSigns : List Char :=
  ['a', 'b', 'f', 'n', 'r', 't', 'v', 'A', 'B', 'F', 'N', 'R', 'T', 'V', '\\', '"', '\'']

inductive Escape : List Char → Prop
  | sign {c : Char} : c ∈ escapeSigns → Escape ['\\', c]
  | hex {x : Char} {ds : List Char} : x = 'x' ∨ x = 'X' → 1 ≤ ds.length → ds.length ≤ 4 →
      (∀ d ∈ ds, isHexDigit d = true) → Escape ('\\' :: x :: ds)
  | short {ds : List Char} : ds.length = 4 → (∀ d ∈ ds, isHexDigit d = true) →
      Escape ('\\' :: 'u' :: ds)
  | long {ds : List Char} : ds.length = 8 → (∀ d ∈ ds, isHexDigit d = true) →
      Escape ('\\' :: 'U' :: ds)

theorem sign_of_simple {c : Char} (h : isSimpleEscape c = true) : c ∈ escapeSigns :=
  of_ascii (P := fun c => isSimpleEscape c = true → c ∈ escapeSigns) (by decide)
    (ascii_only_is_simple_escape c h) h

theorem sign_digits {c : Char} (h : c ∈ escapeSigns) : escapeDigits? c = some (0, 0) := by
  have hall : escapeSigns.all (fun c => decide (escapeDigits? c = some (0, 0))) = true := by decide
  exact of_decide_eq_true (List.all_eq_true.mp hall c h)

theorem escape_digits_cases {c : Char} {lo hi : Nat} (h : escapeDigits? c = some (lo, hi)) :
    (c ∈ escapeSigns ∧ lo = 0 ∧ hi = 0) ∨ ((c = 'x' ∨ c = 'X') ∧ lo = 1 ∧ hi = 4) ∨
      (c = 'u' ∧ lo = 4 ∧ hi = 4) ∨ (c = 'U' ∧ lo = 8 ∧ hi = 8) := by
  unfold escapeDigits? at h
  split at h
  · next hu =>
    cases h
    exact .inr (.inr (.inl ⟨hu, rfl, rfl⟩))
  · split at h
    · next hU =>
      cases h
      exact .inr (.inr (.inr ⟨hU, rfl, rfl⟩))
    · split at h
      · next hsimple =>
        cases h
        exact .inl ⟨sign_of_simple hsimple, rfl, rfl⟩
      · obtain ⟨hx, h⟩ := Option.ite_none_right_eq_some.mp h
        cases h
        exact .inr (.inl ⟨hx, rfl, rfl⟩)

theorem escape_iff_digits {u : List Char} :
    Escape u ↔ ∃ c ds lo hi, u = '\\' :: c :: ds ∧ escapeDigits? c = some (lo, hi) ∧
      lo ≤ ds.length ∧ ds.length ≤ hi ∧ ∀ d ∈ ds, isHexDigit d = true := by
  constructor
  · intro h
    cases h with
    | @sign c hc =>
      exact ⟨c, [], 0, 0, rfl, sign_digits hc, Nat.le_refl _, Nat.le_refl _, List.forall_mem_nil _⟩
    | @hex x ds hx hlo hhi hds =>
      refine ⟨x, ds, 1, 4, rfl, ?_, hlo, hhi, hds⟩
      rcases hx with rfl | rfl <;> rfl
    | @short ds hlen hds => exact ⟨'u', ds, 4, 4, rfl, rfl, by omega, by omega, hds⟩
    | @long ds hlen hds => exact ⟨'U', ds, 8, 8, rfl, rfl, by omega, by omega, hds⟩
  · rintro ⟨c, ds, lo, hi, rfl, hc, hlo, hhi, hds⟩
    rcases escape_digits_cases hc with
      ⟨hsign, rfl, rfl⟩ | ⟨hx, rfl, rfl⟩ | ⟨rfl, rfl, rfl⟩ | ⟨rfl, rfl, rfl⟩
    · obtain rfl := List.eq_nil_of_length_eq_zero (Nat.le_zero.mp hhi)
      exact .sign hsign
    · exact .hex hx hlo hhi hds
    · exact .short (Nat.le_antisymm hhi hlo) hds
    · exact .long (Nat.le_antisymm hhi hlo) hds

theorem Escape.ascii {u : List Char} (h : Escape u) : ∀ c ∈ u, c.toNat < 128 := by
  have hsigns : AsciiOnly escapeSigns.contains := ascii_only_contains (by decide)
  obtain ⟨c, ds, lo, hi, rfl, hc, _, _, hds⟩ := escape_iff_digits.mp h
  simp only [List.forall_mem_cons]
  refine ⟨by decide, ?_, fun d hd => ascii_only_is_hex_digit d (hds d hd)⟩
  rcases escape_digits_cases hc with ⟨hsign, _⟩ | ⟨rfl | rfl, _⟩ | ⟨rfl, _⟩ | ⟨rfl, _⟩
  · exact hsigns c (List.contains_iff_mem.mpr hsign)
  all_goals decide

theorem byte_length_of_ascii {u : List Char} (h : ∀ c ∈ u, c.toNat < 128) :
    byteLength u = u.length := by
  induction u with
  | nil => rfl
  | cons c u ih =>
    obtain ⟨hc, hu⟩ := List.forall_mem_cons.mp h
    rw [byteLength, ih hu, utf8_size_of_ascii hc, List.length_cons, Nat.add_comm]

theorem escape_sound (cs : List Char) (n : Nat) (h : escapeLength? cs = some n) :
    n ≤ cs.length ∧ Escape (cs.take n) := by
  refine ⟨(escape_length_bounds h).2, ?_⟩
  obtain ⟨c, tail, lo, hi, rfl, hc, hlo, rfl⟩ := escape_some_digits h
  have hbounds := escape_digits_le hc
  have hrun := run_length_le isHexDigit tail
  have hlen : (tail.take (min hi (runLength isHexDigit tail))).length =
      min hi (runLength isHexDigit tail) := List.length_take_of_le (by omega)
  rw [Nat.add_comm 2, List.take_succ_cons, List.take_succ_cons]
  refine escape_iff_digits.mpr ⟨c, _, lo, hi, rfl, hc, ?_, ?_, fun d hd => ?_⟩
  · rw [hlen]
    exact Nat.le_min.mpr ⟨hbounds, hlo⟩
  · rw [hlen]
    exact Nat.min_le_left _ _
  · exact of_mem_run (Nat.min_le_right _ _) hd

theorem escape_complete (u z : List Char) (h : Escape u) :
    ∃ n, escapeLength? (u ++ z) = some n ∧ u.length ≤ n := by
  obtain ⟨c, ds, lo, hi, rfl, hc, hlo, hhi, hds⟩ := escape_iff_digits.mp h
  have hrun := le_run hds z
  refine ⟨1 + (1 + min hi (runLength isHexDigit (ds ++ z))), ?_, ?_⟩
  · rw [escape_eq, List.cons_append, headed_cons, List.cons_append, escapeTail?, byHead, hc]
    simp only [if_pos (Nat.le_trans hlo hrun), Option.map_some]
  · simp only [List.length_cons]
    omega

theorem escape_length_iff {cs : List Char} {n : Nat} :
    escapeLength? cs = some n ↔ ∃ u, LongestFront Escape u cs ∧ u.length = n :=
  longest_front_iff escape_sound escape_complete

theorem escape_some_iff {cs : List Char} :
    (escapeLength? cs).isSome = true ↔ ∃ u, u <+: cs ∧ Escape u :=
  front_some_iff escape_sound escape_complete

/-- A longer escape goes on with a hex digit. -/
theorem Escape.hex_behind {e u : List Char} (he : Escape e) (hu : Escape u) {d : Char}
    (h : e ++ [d] <+: u) : isHexDigit d = true := by
  obtain ⟨c, ds, _, _, rfl, _⟩ := escape_iff_digits.mp he
  obtain ⟨c', ds', _, _, rfl, _, _, _, hds'⟩ := escape_iff_digits.mp hu
  have hdigits : ds ++ [d] <+: ds' :=
    (List.cons_prefix_cons.mp (List.cons_prefix_cons.mp h).2).2
  exact hds' d (hdigits.subset (List.mem_append_right _ List.mem_cons_self))

theorem longest_before_quote {e : List Char} (he : Escape e) (tail : List Char) :
    LongestFront Escape e (e ++ '\'' :: tail) := by
  refine ⟨List.prefix_append _ _, he, fun v hfront hv => ?_⟩
  apply Nat.le_of_not_lt
  intro hlonger
  have hquote : e ++ ['\''] <+: e ++ '\'' :: tail := ⟨tail, by simp⟩
  have hlen : (e ++ ['\'']).length ≤ v.length := by
    rw [List.length_append]
    exact hlonger
  cases he.hex_behind hv (List.prefix_of_prefix_length_le hquote hfront hlen)

def CharAhead (c : Char) (cs : List Char) : Prop :=
  c ≠ '\\' ∧ c ≠ '\'' ∧ ∃ tail, cs = c :: '\'' :: tail

def EscapeAhead (e cs : List Char) : Prop := Escape e ∧ ∃ tail, cs = e ++ '\'' :: tail

theorem EscapeAhead.not_char {e cs : List Char} (h : EscapeAhead e cs) :
    ¬∃ c, CharAhead c cs := by
  rintro ⟨c, hback, _, tail, rfl⟩
  obtain ⟨he, behind, hcs⟩ := h
  obtain ⟨_, _, _, _, rfl, _⟩ := escape_iff_digits.mp he
  exact hback (List.cons.inj hcs).1

theorem char_escape_iff {cs : List Char} {n : Nat} :
    charEscapeLength? ('\'' :: cs) = some n ↔ ∃ e, EscapeAhead e cs ∧ n = e.length + 2 := by
  rw [charEscapeLength?]
  constructor
  · intro h
    obtain ⟨m, hm, h⟩ := Option.bind_eq_some_iff.mp h
    obtain ⟨e, ⟨⟨z, rfl⟩, he, _⟩, rfl⟩ := escape_length_iff.mp hm
    obtain ⟨hclose, hn⟩ := Option.ite_none_right_eq_some.mp h
    rw [List.drop_left] at hclose
    obtain ⟨tail, rfl⟩ := List.head?_eq_some_iff.mp hclose
    exact ⟨e, ⟨he, tail, rfl⟩, (Option.some.inj hn).symm⟩
  · rintro ⟨e, ⟨he, tail, rfl⟩, rfl⟩
    have hlength := escape_length_iff.mpr ⟨e, longest_before_quote he tail, rfl⟩
    rw [hlength, Option.bind_some, List.drop_left]
    rfl

theorem char_literal_iff {cs : List Char} {n : Nat} :
    charLiteralLength? ('\'' :: cs) = some n ↔ (∃ c, CharAhead c cs) ∧ n = 3 := by
  constructor
  · intro h
    obtain ⟨c, tail, hcs, rfl⟩ := char_literal_some h
    obtain ⟨_, rfl⟩ := List.cons.inj hcs
    rw [charLiteralLength?] at h
    by_cases hc : c = '\\' ∨ c = '\''
    · rw [if_pos hc] at h
      cases h
    · obtain ⟨hback, hquote⟩ := not_or.mp hc
      exact ⟨⟨c, hback, hquote, tail, rfl⟩, rfl⟩
  · rintro ⟨⟨c, hback, hquote, tail, rfl⟩, rfl⟩
    rw [charLiteralLength?, if_neg (not_or.mpr ⟨hback, hquote⟩)]

theorem char_literal_none {cs : List Char} (h : ¬∃ c, CharAhead c cs) :
    charLiteralLength? ('\'' :: cs) = none := by
  rw [Option.eq_none_iff_forall_ne_some]
  intro n hn
  exact h (char_literal_iff.mp hn).1

theorem char_escape_none {cs : List Char} (h : ¬∃ e, EscapeAhead e cs) :
    charEscapeLength? ('\'' :: cs) = none := by
  rw [Option.eq_none_iff_forall_ne_some]
  intro n hn
  obtain ⟨e, he, _⟩ := char_escape_iff.mp hn
  exact h ⟨e, he⟩

end ArmTokens
