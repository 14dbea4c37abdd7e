import ArmTokens.Proofs.Bytes.Cut

/-!
# Open strings by bytes

The look ahead from an opening quote counts bytes and only takes a whole
character behind a backslash. A byte of a character beyond ASCII is none of the
bytes it looks for, so it passes over the same characters.
-/

set_option autoImplicit false

namespace ArmTokens

def lineCharBytes? : List Char → Option Nat
  | [] => none
  | c :: _ => if isLineEnd c then none else some c.utf8Size

/-- Where the body of an open string ends, looking at its bytes from offset `i` on. -/
def openEnd? (body : List Char) (i : Nat) : Except Fault (Option Nat) :=
  match _ : byteAt? body i with
  | none => return some i
  | some b =>
    if isLineEnd b then return some i
    else if b = '"' then return none
    else if b = '\\' then do
      match lineCharBytes? (← dropBytes (← plus i 1) body) with
      | none => return none
      | some n =>
        let _ ← plus i (← plus 1 n)
        openEnd? body (i + (1 + n))
    else do
      let _ ← plus i 1
      openEnd? body (i + 1)
termination_by (utf8Bytes body).length - i
decreasing_by
  all_goals
    have := byte_at_lt (by assumption)
    omega

def openStringBytes? : List Char → Except Fault (Option Nat)
  | '"' :: body => do
    match ← openEnd? body 0 with
    | none => return none
    | some n => return some (← plus 1 n)
  | _ => return none

theorem line_char_le {cs : List Char} {n : Nat} (h : lineCharBytes? cs = some n) :
    n ≤ byteLength cs := by
  cases cs with
  | nil => simp [lineCharBytes?] at h
  | cons c cs =>
    simp only [lineCharBytes?, Option.ite_none_left_eq_some, Option.some.injEq] at h
    rw [byteLength]
    omega

/-- Bytes of a character that neither ends the line nor is special in a string are passed over
one by one. -/
theorem open_end_plain {c : Char} (as cs : List Char) (hc : isLineEnd c = false)
    (hq : c ≠ '"') (hs : c ≠ '\\') (h : byteLength (as ++ c :: cs) < offsetLimit) (k : Nat)
    (hk : k ≤ c.utf8Size) :
    openEnd? (as ++ c :: cs) (byteLength as + (c.utf8Size - k)) =
      openEnd? (as ++ c :: cs) (byteLength as + c.utf8Size) := by
  induction k with
  | zero => rfl
  | succ k ih =>
    rw [← ih (by omega)]
    obtain ⟨b, hb, hclass⟩ :=
      byte_at_cons (show c.utf8Size - (k + 1) < c.utf8Size by omega) cs
    have hend : isLineEnd b = false := by rw [hclass _ ascii_only_is_line_end.bytewise, hc]
    have hbq : (b == '"') = false := by
      rw [hclass (· == '"') (ascii_only_beq (by decide)).bytewise]
      exact beq_false_of_ne hq
    have hbs : (b == '\\') = false := by
      rw [hclass (· == '\\') (ascii_only_beq (by decide)).bytewise]
      exact beq_false_of_ne hs
    have hat := byte_at_append as (c :: cs) (c.utf8Size - (k + 1))
    rw [hb] at hat
    rw [byte_length_append, byteLength] at h
    rw [openEnd?]
    split
    · next hnone => simp [hat] at hnone
    · next b' hb' =>
      obtain rfl : b = b' := Option.some.inj (hat.symm.trans hb')
      rw [plus_ok (by omega)]
      simp only [hend, beq_eq_false_iff_ne.mp hbq, beq_eq_false_iff_ne.mp hbs, Bool.false_eq_true,
        if_false]
      rw [show byteLength as + (c.utf8Size - (k + 1)) + 1 = byteLength as + (c.utf8Size - k) by
        omega, ok_bind]

theorem open_end_cons {as : List Char} {c : Char} {cs : List Char}
    (h : byteLength (as ++ c :: cs) < offsetLimit) :
    openEnd? (as ++ c :: cs) (byteLength as) =
      if isLineEnd c then .ok (some (byteLength as))
      else if c = '"' then .ok none
      else if c = '\\' then
        match lineCharBytes? cs with
        | none => .ok none
        | some n => openEnd? (as ++ c :: cs) (byteLength as + (1 + n))
      else openEnd? (as ++ c :: cs) (byteLength as + c.utf8Size) := by
  obtain ⟨b, hb, hclass⟩ := byte_at_cons c.utf8Size_pos cs
  have hat : byteAt? (as ++ c :: cs) (byteLength as) = some b := by
    rw [← hb, ← byte_at_append as (c :: cs) 0, Nat.add_zero]
  have hend : isLineEnd b = isLineEnd c := hclass _ ascii_only_is_line_end.bytewise
  have hbq : (b == '"') = (c == '"') := hclass (· == '"') (ascii_only_beq (by decide)).bytewise
  have hbs : (b == '\\') = (c == '\\') :=
    hclass (· == '\\') (ascii_only_beq (by decide)).bytewise
  by_cases hplain : isLineEnd c = false ∧ c ≠ '"' ∧ c ≠ '\\'
  · obtain ⟨h1, h2, h3⟩ := hplain
    have hpass := open_end_plain as cs h1 h2 h3 h c.utf8Size (Nat.le_refl _)
    rw [Nat.sub_self, Nat.add_zero] at hpass
    simp [h1, h2, h3, hpass]
  · rw [openEnd?]
    split
    · next hnone => simp [hat] at hnone
    · next b' hb' =>
      obtain rfl : b = b' := Option.some.inj (hat.symm.trans hb')
      simp only [← beq_iff_eq (a := b), ← beq_iff_eq (a := c), hend, hbq, hbs]
      split
      · rfl
      · split
        · rfl
        · have hslash : c = '\\' := by simp_all
          subst hslash
          have hone := utf8_size_of_ascii (show '\\'.toNat < 128 by decide)
          have hdrop : dropBytes (byteLength as + 1) (as ++ '\\' :: cs) = .ok cs := by
            have hd := drop_bytes_append (as ++ ['\\']) cs
            simpa [byteLength, hone] using hd
          rw [byte_length_append, byteLength, hone] at h
          rw [plus_ok (by omega), ok_bind, hdrop, ok_bind]
          simp only [beq_self_eq_true, if_true]
          cases hd : lineCharBytes? cs with
          | none => rfl
          | some n =>
            have hle := line_char_le hd
            simp only [plus_ok (show 1 + n < offsetLimit by omega), ok_bind,
              plus_ok (show byteLength as + (1 + n) < offsetLimit by omega)]

theorem open_end_eq (as cs : List Char) (h : byteLength (as ++ cs) < offsetLimit) :
    openEnd? (as ++ cs) (byteLength as) =
      .ok ((bytesOf cs (openBodyLength? cs)).map (byteLength as + ·)) := by
  have hslash := utf8_size_of_ascii (show '\\'.toNat < 128 by decide)
  fun_induction openBodyLength? cs generalizing as with
  | case1 =>
    rw [openEnd?]
    split
    · simp [bytesOf, byteLength]
    · next b hb =>
      rw [List.append_nil, byte_at_end] at hb
      simp at hb
  | case2 c cs hc =>
    rw [open_end_cons h]
    simp [lineCharBytes?, hc, bytesOf, show isLineEnd '\\' = false by decide]
  | case3 c cs hc ih =>
    have ih := ih (as ++ ['\\', c]) (by simpa using h)
    have hlen : byteLength (as ++ ['\\', c]) = byteLength as + (1 + c.utf8Size) := by
      simp [byteLength, hslash]
    rw [hlen, List.append_assoc, List.cons_append, List.singleton_append] at ih
    rw [open_end_cons h]
    simp only [show isLineEnd '\\' = false by decide, show '\\' ≠ '"' by decide, lineCharBytes?, hc,
      if_false, if_true, Bool.false_eq_true, ih]
    cases openBodyLength? cs with
    | none => rfl
    | some n => simp [bytesOf, Nat.add_comm 2, byteLength, hslash, Nat.add_assoc]
  | case4 c cs hne hc =>
    rw [open_end_cons h, if_pos hc]
    simp [bytesOf, byteLength]
  | case5 c cs hne hc hs =>
    rw [open_end_cons h]
    rcases hs with rfl | rfl
    · simp [hc, bytesOf]
    · cases cs with
      | nil => simp [hc, bytesOf, lineCharBytes?]
      | cons d cs => exact absurd rfl (hne d cs rfl)
  | case6 c cs hne hc hs ih =>
    have ih := ih (as ++ [c]) (by simpa using h)
    have hlen : byteLength (as ++ [c]) = byteLength as + c.utf8Size := by simp [byteLength]
    rw [hlen, List.append_assoc, List.singleton_append] at ih
    obtain ⟨hquote, hback⟩ := not_or.mp hs
    rw [open_end_cons h, if_neg hc, if_neg hquote, if_neg hback, ih]
    cases openBodyLength? cs with
    | none => rfl
    | some n => simp [bytesOf, Nat.add_comm 1, byteLength, Nat.add_assoc]

theorem open_string_bytes {cs : List Char} (h : byteLength cs < offsetLimit) :
    openStringBytes? cs = .ok (bytesOf cs (openStringLength? cs)) := by
  have hquote : '"'.toNat < 128 := by decide
  unfold openStringLength?
  split
  · next cs =>
    simp only [byteLength, utf8_size_of_ascii hquote] at h
    have hend := open_end_eq [] cs (by rw [List.nil_append]; omega)
    simp only [List.nil_append, byteLength] at hend
    rw [openStringBytes?, hend, ok_bind, ← bytes_of_cons hquote]
    cases hn : bytesOf cs (openBodyLength? cs) with
    | none => rfl
    | some n =>
      have hle := bytes_of_le hn
      simp [plus_ok (show 1 + n < offsetLimit by omega)]
  · next hne =>
    unfold openStringBytes?
    split
    · next cs => exact absurd rfl (hne cs)
    · rfl

end ArmTokens
