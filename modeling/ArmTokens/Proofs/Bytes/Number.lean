import ArmTokens.Proofs.Bytes.Cut

/-!
# Numeric literals by bytes

The sign, the lead and the first digit of a literal are single bytes, after each
of which the text is cut. The bytes of a literal are those of its characters.
-/

set_option autoImplicit false

namespace ArmTokens

namespace Radix

def markedBytes? (marker : Char) (cs : List Char) : Option Nat :=
  if byteAt? cs 0 = some '0' ∧ (byteAt? cs 1).map Char.toLower = some marker then some 2
  else none

def leadBytes? : Radix → List Char → Option Nat
  | .hex, cs => markedBytes? 'x' cs
  | .bin, cs => markedBytes? 'b' cs
  | .dec, _ => some 0

/-- A literal after a sign of `sign` bytes. -/
def unsignedBytes? (r : Radix) (sign : Nat) (body : List Char) : Except Fault (Option Nat) := do
  match r.leadBytes? body with
  | none => return none
  | some lead =>
    let digits ← dropBytes lead body
    match oneByte? r.isDigit digits with
    | none => return none
    | some _ =>
      let first ← plus (← plus sign lead) 1
      return some (← plus first (byteRun r.isDigitOrGap (← dropBytes 1 digits)))

def literalBytes? (r : Radix) (cs : List Char) : Except Fault (Option Nat) := do
  let sign := if cs.head? = some '-' then 1 else 0
  r.unsignedBytes? sign (← dropBytes sign cs)

def immediateBytes? (r : Radix) : List Char → Except Fault (Option Nat)
  | '#' :: cs => do
    match ← r.literalBytes? cs with
    | none => return none
    | some n => return some (← plus n 1)
  | _ => return none

end Radix

theorem marked_bytes_zero {marker : Char} (hm : marker.toNat < 128) (m : Char)
    (rest : List Char) :
    Radix.markedBytes? marker ('0' :: m :: rest) = if m.toLower = marker then some 2 else none := by
  have hsecond : byteAt? ('0' :: m :: rest) 1 = byteAt? (m :: rest) 0 :=
    byte_at_append ['0'] (m :: rest) 0
  simp only [Radix.markedBytes?, hsecond, first_byte_to_lower_iff hm,
    first_byte_eq_iff (show '0'.toNat < 128 by decide), true_and]

theorem marked_bytes_none {cs : List Char} (marker : Char)
    (h : ∀ m rest, cs ≠ '0' :: m :: rest) : Radix.markedBytes? marker cs = none := by
  apply if_neg
  rintro ⟨hzero, hmark⟩
  rcases cs with _ | ⟨c, _ | ⟨m, rest⟩⟩
  · simp [byteAt?, utf8Bytes] at hzero
  · obtain rfl := (first_byte_eq_iff (by decide) c []).mp hzero
    simp [show byteAt? ['0'] 1 = none from byte_at_end ['0']] at hmark
  · obtain rfl := (first_byte_eq_iff (by decide) c _).mp hzero
    exact h m rest rfl

theorem marked_bytes_eq {r : Radix} {lower upper : Char} (hl : lower.toNat < 128)
    (hu : upper.toNat < 128) (hcase : ∀ m : Char, m.toLower = lower ↔ m = lower ∨ m = upper)
    (hsome : ∀ m rest, r.leadLength? ('0' :: m :: rest) =
      if m == lower || m == upper then some 2 else none)
    (hnone : ∀ cs, (∀ m rest, cs ≠ '0' :: m :: rest) → r.leadLength? cs = none)
    (cs : List Char) : Radix.markedBytes? lower cs = bytesOf cs (r.leadLength? cs) := by
  by_cases hcs : ∃ m rest, cs = '0' :: m :: rest
  · obtain ⟨m, rest, rfl⟩ := hcs
    rw [marked_bytes_zero hl, hsome]
    by_cases hm : m = lower ∨ m = upper
    · have hascii : m.toNat < 128 := by rcases hm with rfl | rfl <;> assumption
      simp [hcase, hm, bytesOf, byteLength, utf8_size_of_ascii hascii,
        utf8_size_of_ascii (show '0'.toNat < 128 by decide)]
    · simp [hcase, hm, bytesOf]
  · have hother : ∀ m rest, cs ≠ '0' :: m :: rest := fun m rest h => hcs ⟨m, rest, h⟩
    rw [marked_bytes_none lower hother, hnone cs hother]
    rfl

theorem lead_bytes_eq (r : Radix) (cs : List Char) :
    r.leadBytes? cs = bytesOf cs (r.leadLength? cs) := by
  cases r with
  | dec => rfl
  | hex =>
    apply marked_bytes_eq (by decide) (by decide) (fun m => to_lower_eq_iff.1) (fun _ _ => rfl)
    intro cs h
    unfold Radix.leadLength?
    split <;> simp_all
  | bin =>
    apply marked_bytes_eq (by decide) (by decide) (fun m => to_lower_eq_iff.2) (fun _ _ => rfl)
    intro cs h
    unfold Radix.leadLength?
    split <;> simp_all

theorem unsigned_bytes {r : Radix} {sign : Nat} {body : List Char}
    (h : sign + byteLength body < offsetLimit) :
    r.unsignedBytes? sign body =
      .ok ((bytesOf body (r.unsignedLength? body)).map (sign + ·)) := by
  rw [Radix.unsignedBytes?, Radix.unsignedLength?, lead_bytes_eq]
  cases r.leadLength? body with
  | none => rfl
  | some lead =>
    have hbody := byte_length_take_add_drop lead body
    simp only [bytesOf, Option.map_some, drop_bytes_take, ok_bind, Option.bind_some]
    have htake : ∀ n, body.take (lead + n) = body.take lead ++ (body.drop lead).take n :=
      fun n => List.take_add
    cases hd : body.drop lead with
    | nil => rfl
    | cons c cs =>
      rw [hd] at hbody htake
      by_cases hc : r.isDigit c
      · have hascii := r.ascii_only_is_digit c hc
        have hrun := byte_length_take_add_drop (runLength r.isDigitOrGap cs) cs
        rw [byteLength, utf8_size_of_ascii hascii] at hbody
        rw [one_byte_cons r.ascii_only_is_digit, if_pos hc]
        simp only [Radix.digitsLength?, hc, if_true, Option.map_some, htake]
        rw [plus_ok (by omega), ok_bind, plus_ok (by omega), ok_bind, drop_bytes_one hascii,
          ok_bind, byte_run_eq r.ascii_only_is_digit_or_gap.bytewise, plus_ok (by omega)]
        simp [byteLength, Nat.add_comm 1, utf8_size_of_ascii hascii, Nat.add_assoc]
      · rw [one_byte_cons r.ascii_only_is_digit, if_neg hc]
        simp [Radix.digitsLength?, hc]

theorem literal_bytes {r : Radix} {cs : List Char} (h : byteLength cs < offsetLimit) :
    r.literalBytes? cs = .ok (bytesOf cs (r.literalLength? cs)) := by
  have hminus : '-'.toNat < 128 := by decide
  unfold Radix.literalLength?
  split
  · next cs =>
    simp only [byteLength, utf8_size_of_ascii hminus] at h
    simp only [Radix.literalBytes?, List.head?_cons, if_true, drop_bytes_one hminus, ok_bind,
      unsigned_bytes h, bytes_of_cons hminus]
  · next hne =>
    have hhead : cs.head? ≠ some '-' := by
      intro hhead
      obtain ⟨cs', rfl⟩ := List.head?_eq_some_iff.mp hhead
      exact hne cs' rfl
    have hdrop : dropBytes 0 cs = .ok cs := drop_bytes_take 0 cs
    simp [Radix.literalBytes?, hhead, hdrop,
      unsigned_bytes (show 0 + byteLength cs < offsetLimit by omega)]

theorem immediate_bytes {r : Radix} {cs : List Char} (h : byteLength cs < offsetLimit) :
    r.immediateBytes? cs = .ok (bytesOf cs (r.immediateLength? cs)) := by
  have hhash : '#'.toNat < 128 := by decide
  unfold Radix.immediateLength?
  split
  · next cs =>
    simp only [byteLength, utf8_size_of_ascii hhash] at h
    rw [Radix.immediateBytes?, literal_bytes (by omega), ok_bind, ← bytes_of_cons hhash]
    cases hn : bytesOf cs (r.literalLength? cs) with
    | none => rfl
    | some n =>
      have hle := bytes_of_le hn
      simp [plus_ok (show n + 1 < offsetLimit by omega), Nat.add_comm 1]
  · next hne =>
    unfold Radix.immediateBytes?
    split
    · next cs => exact absurd rfl (hne cs)
    · rfl

end ArmTokens
