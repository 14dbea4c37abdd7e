import ArmTokens.Proofs.Bytes.OpenString

/-!
# Characters and escapes by bytes

After its letter an escape has only hex digits, which take one byte each. The
quote behind a character or an escape is looked for at a sum of bytes.
-/

set_option autoImplicit false

namespace ArmTokens

def charLiteralBytes? : List Char → Except Fault (Option Nat)
  | '\'' :: c :: cs =>
    if c = '\\' ∨ c = '\'' then return none
    else do
      if (← dropBytes c.utf8Size (c :: cs)).head? = some '\'' then
        return some (← plus c.utf8Size 2)
      else return none
  | _ => return none

def hexBytes (count : Nat) (body : List Char) : Except Fault Nat := do
  return min (byteRun isHexDigit (← dropBytes 1 body)) count

def escapeBytes? : List Char → Except Fault (Option Nat)
  | '\\' :: body =>
    match byteAt? body 0 with
    | none => return none
    | some b =>
      if b = 'u' then do
        if (← hexBytes 4 body) = 4 then return some 6 else return none
      else if b = 'U' then do
        if (← hexBytes 8 body) = 8 then return some 10 else return none
      else if isSimpleEscape b then return some 2
      else if b.toLower = 'x' then do
        match nonzero? (← hexBytes 4 body) with
        | none => return none
        | some n => return some (← plus n 2)
      else return none
  | _ => return none

def charEscapeBytes? : List Char → Except Fault (Option Nat)
  | '\'' :: body => do
    match ← escapeBytes? body with
    | none => return none
    | some n =>
      if (← dropBytes n body).head? = some '\'' then return some (← plus n 2)
      else return none
  | _ => return none

def anyEscapeBytes? : List Char → Except Fault (Option Nat)
  | '\\' :: body =>
    match lineCharBytes? body with
    | none => return none
    | some n => do return some (← plus n 1)
  | _ => return none

theorem char_literal_bytes (cs : List Char) :
    charLiteralBytes? cs = .ok (bytesOf cs (charLiteralLength? cs)) := by
  have hquote := utf8_size_of_ascii (show '\''.toNat < 128 by decide)
  unfold charLiteralBytes?
  split
  · next c cs =>
    have hdrop := drop_bytes_head c cs
    have hsize := c.utf8Size_le_four
    have hsum : plus c.utf8Size 2 = .ok (c.utf8Size + 2) := plus_ok (by unfold offsetLimit; omega)
    by_cases hclose : ∃ rest, cs = '\'' :: rest
    · obtain ⟨rest, rfl⟩ := hclose
      by_cases hc : c = '\\' ∨ c = '\''
      · simp [charLiteralLength?, hc, bytesOf]
      · simp [charLiteralLength?, hc, hdrop, hsum, bytesOf, byteLength, hquote]
        omega
    · have hhead : cs.head? ≠ some '\'' := by
        intro hhead
        exact hclose (List.head?_eq_some_iff.mp hhead)
      have hnone : charLiteralLength? ('\'' :: c :: cs) = none := by
        unfold charLiteralLength?
        split
        · next heq => exact absurd ⟨_, (List.cons.inj (List.cons.inj heq).2).2⟩ hclose
        · rfl
      rw [hnone]
      split
      · rfl
      · rw [hdrop, ok_bind, if_neg hhead]
        rfl
  · next hne =>
    unfold charLiteralLength?
    split
    · next c rest => exact absurd rfl (hne c ('\'' :: rest))
    · rfl

theorem byte_length_take_of_le_run {p : Char → Bool} (hp : AsciiOnly p) {cs : List Char} {k : Nat}
    (h : k ≤ runLength p cs) : byteLength (cs.take k) = k := by
  induction cs generalizing k with
  | nil => simp_all [runLength, byteLength]
  | cons c cs ih =>
    cases k with
    | zero => rfl
    | succ k =>
      by_cases hc : p c
      · have hk : k ≤ runLength p cs := by
          simpa [runLength, List.takeWhile_cons, hc] using h
        rw [List.take_succ_cons, byteLength, ih hk, utf8_size_of_ascii (hp c hc)]
        omega
      · simp [runLength, hc] at h

theorem hex_bytes {c : Char} (hc : c.toNat < 128) (count : Nat) (cs : List Char) :
    hexBytes count (c :: cs) = .ok (min (runLength isHexDigit cs) count) := by
  rw [hexBytes, drop_bytes_one hc, ok_bind, byte_run_eq ascii_only_is_hex_digit.bytewise,
    byte_length_take_of_le_run ascii_only_is_hex_digit (Nat.le_refl _)]
  rfl

theorem bytes_of_escape {c : Char} {cs : List Char} (hc : c.toNat < 128) {n : Nat}
    (hn : n ≤ runLength isHexDigit cs) :
    bytesOf ('\\' :: c :: cs) (some (2 + n)) = some (2 + n) := by
  have hslash := utf8_size_of_ascii (show '\\'.toNat < 128 by decide)
  simp [bytesOf, Nat.add_comm 2, byteLength, hslash, utf8_size_of_ascii hc,
    byte_length_take_of_le_run ascii_only_is_hex_digit hn]
  omega

theorem escape_bytes_cons (c : Char) (cs : List Char) :
    escapeBytes? ('\\' :: c :: cs) =
      if c = 'u' then do
        if (← hexBytes 4 (c :: cs)) = 4 then return some 6 else return none
      else if c = 'U' then do
        if (← hexBytes 8 (c :: cs)) = 8 then return some 10 else return none
      else if isSimpleEscape c then return some 2
      else if c = 'x' ∨ c = 'X' then do
        match nonzero? (← hexBytes 4 (c :: cs)) with
        | none => return none
        | some n => return some (← plus n 2)
      else return none := by
  obtain ⟨b, hb, hclass⟩ := byte_at_cons c.utf8Size_pos cs
  have hu : b = 'u' ↔ c = 'u' := by
    rw [← beq_iff_eq, hclass (· == 'u') (ascii_only_beq (by decide)).bytewise, beq_iff_eq]
  have hU : b = 'U' ↔ c = 'U' := by
    rw [← beq_iff_eq, hclass (· == 'U') (ascii_only_beq (by decide)).bytewise, beq_iff_eq]
  have hx : b.toLower = 'x' ↔ c = 'x' ∨ c = 'X' := by
    rw [← to_lower_eq_iff.1, ← beq_iff_eq, ← beq_iff_eq (a := c.toLower)]
    rw [hclass (fun d => d.toLower == 'x') (ascii_only_beq (by decide)).comp_to_lower.bytewise]
  simp only [escapeBytes?, hb, hu, hU, hx, hclass _ ascii_only_is_simple_escape.bytewise]

theorem exact_hex_bytes {c : Char} (hc : c.toNat < 128) (n : Nat) (cs : List Char) :
    (do if (← hexBytes n (c :: cs)) = n then return some (2 + n) else return none) =
      (.ok (bytesOf ('\\' :: c :: cs)
        (if n ≤ runLength isHexDigit cs then some (2 + n) else none)) :
        Except Fault (Option Nat)) := by
  rw [hex_bytes hc, ok_bind]
  by_cases hrun : n ≤ runLength isHexDigit cs
  · rw [if_pos (Nat.min_eq_right hrun), if_pos hrun, bytes_of_escape hc hrun]
    rfl
  · rw [if_neg (by omega), if_neg hrun]
    rfl

theorem escape_bytes (cs : List Char) :
    escapeBytes? cs = .ok (bytesOf cs (escapeLength? cs)) := by
  by_cases hcs : ∃ c rest, cs = '\\' :: c :: rest
  · obtain ⟨c, rest, rfl⟩ := hcs
    rw [escape_bytes_cons, escapeLength?]
    by_cases hu : c = 'u'
    · rw [if_pos hu, if_pos hu]
      exact exact_hex_bytes (by rw [hu]; decide) 4 rest
    · rw [if_neg hu, if_neg hu]
      by_cases hU : c = 'U'
      · rw [if_pos hU, if_pos hU]
        exact exact_hex_bytes (by rw [hU]; decide) 8 rest
      · rw [if_neg hU, if_neg hU]
        by_cases hsimple : isSimpleEscape c
        · rw [if_pos hsimple, if_pos hsimple]
          exact congrArg _ (bytes_of_escape (n := 0) (ascii_only_is_simple_escape c hsimple)
            (Nat.zero_le _)).symm
        · rw [if_neg hsimple, if_neg hsimple]
          by_cases hx : c = 'x' ∨ c = 'X'
          · have hascii : c.toNat < 128 := by rcases hx with rfl | rfl <;> decide
            rw [if_pos hx, if_pos hx, hex_bytes hascii, ok_bind, Nat.min_comm]
            cases hm : min 4 (runLength isHexDigit rest) with
            | zero =>
              rw [if_neg (by omega)]
              rfl
            | succ n =>
              rw [if_pos (by omega), bytes_of_escape hascii (by omega)]
              simp [nonzero?, plus_ok (show n + 1 + 2 < offsetLimit by unfold offsetLimit; omega)]
              omega
          · rw [if_neg hx, if_neg hx]
            rfl
  · have hnone : escapeLength? cs = none := by
      unfold escapeLength?
      split
      · next c rest => exact absurd ⟨c, rest, rfl⟩ hcs
      · rfl
    rw [hnone]
    unfold escapeBytes?
    split
    · next body =>
      cases body with
      | nil => rfl
      | cons c rest => exact absurd ⟨c, rest, rfl⟩ hcs
    · rfl

theorem char_escape_bytes {cs : List Char} (h : byteLength cs < offsetLimit) :
    charEscapeBytes? cs = .ok (bytesOf cs (charEscapeLength? cs)) := by
  have hquote := utf8_size_of_ascii (show '\''.toNat < 128 by decide)
  unfold charEscapeLength?
  split
  · next cs =>
    rw [byteLength, hquote] at h
    rw [charEscapeBytes?, escape_bytes, ok_bind]
    cases escapeLength? cs with
    | none => rfl
    | some n =>
      simp only [bytesOf, Option.map_some, drop_bytes_take, ok_bind, Option.bind_some]
      by_cases hclose : (cs.drop n).head? = some '\''
      · obtain ⟨rest, hrest⟩ := List.head?_eq_some_iff.mp hclose
        have hsplit := byte_length_take_add_drop n cs
        rw [hrest, byteLength, hquote] at hsplit
        have htake : cs.take (n + 1) = cs.take n ++ ['\''] := by
          rw [List.take_add, hrest]
          rfl
        rw [if_pos hclose, if_pos hclose, plus_ok (by omega)]
        simp [byteLength, hquote, htake]
        omega
      · rw [if_neg hclose, if_neg hclose]
        rfl
  · next hne =>
    unfold charEscapeBytes?
    split
    · next cs => exact absurd rfl (hne cs)
    · rfl

theorem any_escape_bytes {cs : List Char} (h : byteLength cs < offsetLimit) :
    anyEscapeBytes? cs = .ok (bytesOf cs (anyEscapeLength? cs)) := by
  have hslash := utf8_size_of_ascii (show '\\'.toNat < 128 by decide)
  unfold anyEscapeLength?
  split
  · next c cs =>
    rw [byteLength, byteLength, hslash] at h
    rw [anyEscapeBytes?, lineCharBytes?]
    by_cases hc : isLineEnd c
    · simp [hc, bytesOf]
    · simp [hc, plus_ok (show c.utf8Size + 1 < offsetLimit by omega), bytesOf, byteLength, hslash,
        Nat.add_comm]
  · next hne =>
    unfold anyEscapeBytes?
    split
    · next body =>
      cases body with
      | nil => rfl
      | cons c rest => exact absurd rfl (hne c rest)
    · rfl

end ArmTokens
