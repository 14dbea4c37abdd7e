import ArmTokens.Proofs.Pattern.StringBody

/-!
# What quotes and escapes depend on

An escape is a backslash, a character, and as many hex digits as that character
asks for. A character literal has one character between its quotes, and this is
the only place where a match of fixed length may hold a line end.
-/

set_option autoImplicit false

namespace ArmTokens

/-- How many hex digits an escape takes at least and at most. -/
def escapeDigits? (c : Char) : Option (Nat × Nat) :=
  if c = 'u' then some (4, 4)
  else if c = 'U' then some (8, 8)
  else if isSimpleEscape c then some (0, 0)
  else if c = 'x' ∨ c = 'X' then some (1, 4)
  else none

def escapeTail? : List Char → Option Nat :=
  byHead fun c cs =>
    match escapeDigits? c with
    | some (lo, hi) =>
      if lo ≤ runLength isHexDigit cs then some (min hi (runLength isHexDigit cs)) else none
    | none => none

theorem escape_digits_le {c : Char} {lo hi : Nat} (h : escapeDigits? c = some (lo, hi)) :
    lo ≤ hi := by
  unfold escapeDigits? at h
  repeat' split at h
  all_goals simp only [Option.some.injEq, Prod.mk.injEq, reduceCtorEq] at h
  all_goals omega

theorem escape_eq : escapeLength? = headed '\\' escapeTail? := by
  apply eq_headed
  · rfl
  · intro cs
    cases cs with
    | nil => simp [escapeLength?, escapeTail?, byHead]
    | cons c cs =>
      rw [escapeLength?, escapeTail?, byHead, escapeDigits?]
      by_cases hu : c = 'u'
      · simp only [if_pos hu]
        split
        · next hr => simp [Nat.min_eq_left hr]
        · rfl
      · by_cases hU : c = 'U'
        · simp only [if_neg hu, if_pos hU]
          split
          · next hr => simp [Nat.min_eq_left hr]
          · rfl
        · by_cases hs : isSimpleEscape c = true
          · simp [hu, hU, hs]
          · by_cases hx : c = 'x' ∨ c = 'X'
            · simp only [if_neg hu, if_neg hU, if_neg hs, if_pos hx]
              split
              · simp
                omega
              · rfl
            · simp [hu, hU, hs, hx]
  · intro c cs hc
    cases cs <;> simp [escapeLength?, hc]

theorem any_escape_eq : anyEscapeLength? = headed '\\' (oneOf? fun c => !isLineEnd c) := by
  apply eq_headed
  · rfl
  · intro cs
    cases cs with
    | nil => simp [anyEscapeLength?, oneOf?]
    | cons c cs =>
      rw [anyEscapeLength?, oneOf?]
      cases isLineEnd c <;> rfl
  · intro c cs hc
    cases cs <;> simp [anyEscapeLength?, hc]

theorem escape_some_digits {cs : List Char} {n : Nat} (h : escapeLength? cs = some n) :
    ∃ c tail lo hi, cs = '\\' :: c :: tail ∧ escapeDigits? c = some (lo, hi) ∧
      lo ≤ runLength isHexDigit tail ∧ n = 2 + min hi (runLength isHexDigit tail) := by
  rw [escape_eq] at h
  obtain ⟨b, _, k, rfl, hk, rfl⟩ := by_head_some h
  obtain ⟨rfl, htail⟩ := Option.ite_none_right_eq_some.mp hk
  obtain ⟨c, tail, m, rfl, hm, rfl⟩ := by_head_some htail
  cases hc : escapeDigits? c with
  | none =>
    rw [hc] at hm
    cases hm
  | some bounds =>
    obtain ⟨lo, hi⟩ := bounds
    rw [hc] at hm
    obtain ⟨hlo, hm⟩ := Option.ite_none_right_eq_some.mp hm
    obtain rfl := Option.some.inj hm
    exact ⟨c, tail, lo, hi, rfl, hc, hlo, (Nat.add_assoc 1 1 _).symm⟩

theorem escape_none_of_line_end {cs : List Char} (h : AtLineEnd cs) :
    escapeLength? ('\\' :: cs) = none := by
  cases cs with
  | nil => rfl
  | cons c cs =>
    rcases is_line_end_iff.mp (at_line_end_cons.mp h) with rfl | rfl <;> rfl

theorem any_escape_none_iff {cs : List Char} :
    anyEscapeLength? ('\\' :: cs) = none ↔ AtLineEnd cs := by
  cases cs with
  | nil => exact iff_of_true rfl at_line_end_nil
  | cons c cs =>
    rw [at_line_end_cons, anyEscapeLength?]
    cases isLineEnd c <;> simp

theorem any_escape_some {cs : List Char} {n : Nat} (h : anyEscapeLength? cs = some n) : n = 2 := by
  unfold anyEscapeLength? at h
  split at h
  · split at h <;> cases h
    rfl
  · cases h

theorem char_literal_eq : charLiteralLength? = headed '\''
    (inTurn (oneOf? fun c => c != '\\' && c != '\'') (oneOf? (· == '\''))) := by
  apply eq_headed
  · rfl
  · intro cs
    match cs with
    | [] => simp [charLiteralLength?, oneOf?, inTurn]
    | [c] =>
      rw [inTurn, oneOf?]
      split <;> simp [charLiteralLength?, oneOf?]
    | c :: d :: cs =>
      by_cases hd : d = '\''
      · by_cases hc : c = '\\' ∨ c = '\''
        · rcases hc with rfl | rfl <;> simp [charLiteralLength?, hd, inTurn, oneOf?]
        · obtain ⟨hback, hquote⟩ := not_or.mp hc
          simp [charLiteralLength?, hd, inTurn, oneOf?, hback, hquote]
      · rw [inTurn, oneOf?]
        split <;> simp [charLiteralLength?, hd, oneOf?]
  · intro c cs hc
    simp [charLiteralLength?, hc]

theorem char_literal_some {cs : List Char} {n : Nat} (h : charLiteralLength? cs = some n) :
    ∃ c tail, cs = '\'' :: c :: '\'' :: tail ∧ n = 3 := by
  unfold charLiteralLength? at h
  split at h
  · next c tail =>
    split at h
    · cases h
    · exact ⟨c, tail, rfl, (Option.some.inj h).symm⟩
  · cases h

theorem char_escape_eq :
    charEscapeLength? = headed '\'' (inTurn escapeLength? (oneOf? (· == '\''))) := by
  apply eq_headed
  · rfl
  · intro cs
    rw [charEscapeLength?, inTurn, Option.map_bind]
    congr 1
    ext n : 1
    rw [Function.comp_apply]
    cases cs.drop n with
    | nil => simp [oneOf?]
    | cons c tail =>
      rw [oneOf?]
      by_cases hc : c = '\''
      · simp [hc]
        omega
      · simp [hc]
  · intro c cs hc
    simp [charEscapeLength?, hc]

theorem open_string_eq : openStringLength? = headed '"' openBodyLength? := by
  apply eq_headed
  · rfl
  · intro cs
    rfl
  · intro c cs hc
    simp [openStringLength?, hc]

theorem grows_escape : Grows escapeLength? := by
  rw [escape_eq]
  apply Grows.headed
  apply Grows.by_head
  intro c
  cases h : escapeDigits? c with
  | none => exact Grows.never
  | some bounds => exact Grows.run_up_to isHexDigit (escape_digits_le h)

theorem grows_any_escape : Grows anyEscapeLength? := by
  rw [any_escape_eq]
  exact (grows_one_of _).headed _

theorem grows_char_literal : Grows charLiteralLength? := by
  rw [char_literal_eq]
  exact ((grows_one_of _).in_turn (grows_one_of _) rfl).headed _

theorem grows_char_escape : Grows charEscapeLength? := by
  rw [char_escape_eq]
  exact (grows_escape.in_turn (grows_one_of _) rfl).headed _

theorem settles_open_string : Settles openStringLength? := by
  rw [open_string_eq]
  exact settles_open_body.headed '"'

def escapeHolds (c : Char) : Bool := c == '\\' || (escapeDigits? c).isSome || isHexDigit c

theorem avoids_escape {a : Char} (h : escapeHolds a = false) : Avoids a escapeLength? := by
  simp only [escapeHolds, Bool.or_eq_false_iff, beq_eq_false_iff_ne, Option.isSome_eq_false_iff,
    Option.isNone_iff_eq_none] at h
  obtain ⟨⟨hback, hletter⟩, hhex⟩ := h
  rw [escape_eq]
  apply Avoids.headed _ hback
  apply Avoids.by_head
  · intro c
    cases escapeDigits? c with
    | none => exact Avoids.never
    | some bounds => exact Avoids.run_up_to hhex bounds.1 bounds.2
  · intro cs
    rw [hletter]

theorem avoids_any_escape {a : Char} (ha : isLineEnd a = true) : Avoids a anyEscapeLength? := by
  have hback : a ≠ '\\' := by
    rintro rfl
    cases ha
  rw [any_escape_eq]
  exact Avoids.headed (avoids_one_of (by rw [ha]; rfl)) hback

theorem avoids_char_escape {a : Char} (h : escapeHolds a = false) (ha : a ≠ '\'') :
    Avoids a charEscapeLength? := by
  have hclose : Avoids a (oneOf? (· == '\'')) := avoids_one_of (beq_eq_false_iff_ne.mpr ha)
  rw [char_escape_eq]
  exact Avoids.headed (Avoids.in_turn (avoids_escape h) hclose) ha

theorem avoids_open_string {a : Char} (ha : isLineEnd a = true) : Avoids a openStringLength? := by
  have hquote : a ≠ '"' := by
    rintro rfl
    cases ha
  rw [open_string_eq]
  exact Avoids.headed (avoids_open_body ha) hquote

end ArmTokens
