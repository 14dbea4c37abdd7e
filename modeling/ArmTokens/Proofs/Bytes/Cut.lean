import ArmTokens.Proofs.Bytes.Encoding
import ArmTokens.Span

/-!
# Cutting and counting by bytes

A sum of offsets has to fit into a word, and a text is cut at a byte offset only
where a character ends. Anything else is a fault. Counted from the start of a
text, the bytes of whole characters are never one.
-/

set_option autoImplicit false

namespace ArmTokens

inductive Fault where
  | range (error : RangeError)
  | emptyMatch
  /-- A match that is too short for the two quotes around it. -/
  | quotesOverlap
  deriving DecidableEq, Repr

def plus (a b : Nat) : Except Fault Nat :=
  if a + b < offsetLimit then .ok (a + b) else .error (.range .overflow)

def cutAt (n : Nat) (cs : List Char) : Except Fault (List Char × List Char) :=
  match splitAtByte? n cs with
  | some parts => .ok parts
  | none => .error (.range .offBoundary)

def dropBytes (n : Nat) (cs : List Char) : Except Fault (List Char) := do
  return (← cutAt n cs).2

def oneByte? (p : Char → Bool) (cs : List Char) : Option Nat :=
  match byteAt? cs 0 with
  | some b => if p b then some 1 else none
  | none => none

def nonzero? : Nat → Option Nat
  | 0 => none
  | n + 1 => some (n + 1)

def byteRun? (p : Char → Bool) (cs : List Char) : Option Nat := nonzero? (byteRun p cs)

/-- The bytes of so many characters at the start of a text. -/
def bytesOf (cs : List Char) (n : Option Nat) : Option Nat :=
  n.map fun k => byteLength (cs.take k)

@[simp] theorem ok_bind {ε α β : Type} (a : α) (f : α → Except ε β) :
    (Except.ok a >>= f) = f a := rfl

@[simp] theorem pure_eq_ok {ε α : Type} (a : α) : (pure a : Except ε α) = .ok a := rfl

theorem bind_eq_ok_iff {ε α β : Type} {x : Except ε α} {f : α → Except ε β} {b : β} :
    (x >>= f) = .ok b ↔ ∃ a, x = .ok a ∧ f a = .ok b := by
  cases x with
  | ok a => simp
  | error e => exact ⟨nofun, fun ⟨_, h, _⟩ => nomatch h⟩

theorem plus_ok {a b : Nat} (h : a + b < offsetLimit) : plus a b = .ok (a + b) := if_pos h

theorem byte_length_take_add_drop (n : Nat) (cs : List Char) :
    byteLength (cs.take n) + byteLength (cs.drop n) = byteLength cs := by
  rw [← byte_length_append, List.take_append_drop]

theorem cut_at_append (as bs : List Char) : cutAt (byteLength as) (as ++ bs) = .ok (as, bs) := by
  rw [cutAt, split_at_byte_append]

theorem cut_at_take (n : Nat) (cs : List Char) :
    cutAt (byteLength (cs.take n)) cs = .ok (cs.take n, cs.drop n) := by
  have h := cut_at_append (cs.take n) (cs.drop n)
  rwa [List.take_append_drop] at h

theorem drop_bytes_append (as bs : List Char) :
    dropBytes (byteLength as) (as ++ bs) = .ok bs := by
  rw [dropBytes, cut_at_append]
  rfl

theorem drop_bytes_take (n : Nat) (cs : List Char) :
    dropBytes (byteLength (cs.take n)) cs = .ok (cs.drop n) := by
  rw [dropBytes, cut_at_take]
  rfl

theorem drop_bytes_head (c : Char) (cs : List Char) : dropBytes c.utf8Size (c :: cs) = .ok cs :=
  drop_bytes_append [c] cs

theorem drop_bytes_one {c : Char} (h : c.toNat < 128) (cs : List Char) :
    dropBytes 1 (c :: cs) = .ok cs := by
  have hd := drop_bytes_head c cs
  rwa [utf8_size_of_ascii h] at hd

theorem one_byte_cons {p : Char → Bool} (hp : AsciiOnly p) (c : Char) (cs : List Char) :
    oneByte? p (c :: cs) = if p c then some 1 else none := by
  obtain ⟨b, hb, hclass⟩ := byte_at_cons c.utf8Size_pos cs
  rw [oneByte?, hb]
  simp only [hclass p hp.bytewise]

theorem one_byte_eq {p : Char → Bool} (hp : AsciiOnly p) (cs : List Char) :
    oneByte? p cs = bytesOf cs (oneOf? p cs) := by
  cases cs with
  | nil => rfl
  | cons c cs =>
    rw [one_byte_cons hp, oneOf?]
    split
    · next hc => simp [bytesOf, byteLength, utf8_size_of_ascii (hp c hc)]
    · rfl

theorem byte_run_some_eq {p : Char → Bool} (hp : Bytewise p) (cs : List Char) :
    byteRun? p cs = bytesOf cs (runLength? p cs) := by
  rw [byteRun?, byte_run_eq hp, runLength?]
  have hle := length_le_byte_length (cs.take (runLength p cs))
  rw [take_run_length] at *
  have hlen : (cs.takeWhile p).length = runLength p cs := rfl
  split
  · next h =>
    have hnil : cs.takeWhile p = [] := List.length_eq_zero_iff.mp (hlen.trans h)
    rw [hnil]
    rfl
  · next n h =>
    obtain ⟨m, hm⟩ : ∃ m, byteLength (cs.takeWhile p) = m + 1 :=
      ⟨byteLength (cs.takeWhile p) - 1, by omega⟩
    rw [hm, nonzero?, ← hm, bytesOf, Option.map_some, ← Nat.succ_eq_add_one, ← h, take_run_length]

theorem first_byte_eq_iff {d : Char} (hd : d.toNat < 128) (c : Char) (cs : List Char) :
    byteAt? (c :: cs) 0 = some d ↔ c = d := by
  obtain ⟨b, hb, hclass⟩ := byte_at_cons c.utf8Size_pos cs
  have hbeq : (b == d) = (c == d) := hclass (· == d) (ascii_only_beq hd).bytewise
  rw [hb, Option.some.injEq, ← beq_iff_eq, hbeq, beq_iff_eq]

theorem to_lower_eq_iff {m : Char} :
    (m.toLower = 'x' ↔ m = 'x' ∨ m = 'X') ∧ (m.toLower = 'b' ↔ m = 'b' ∨ m = 'B') := by
  by_cases hm : m.toNat < 128
  · exact of_ascii (P := fun m => (m.toLower = 'x' ↔ m = 'x' ∨ m = 'X') ∧
      (m.toLower = 'b' ↔ m = 'b' ∨ m = 'B')) (by decide) hm
  · have hout : ∀ d : Char, d.toNat < 128 → m.toLower ≠ d ∧ m ≠ d := by
      intro d hd
      refine ⟨fun h => hm (ascii_of_to_lower ?_), fun h => hm ?_⟩
      · rwa [h]
      · rwa [h]
    simp [hout]

theorem first_byte_to_lower_iff {d : Char} (hd : d.toNat < 128) (c : Char) (cs : List Char) :
    (byteAt? (c :: cs) 0).map Char.toLower = some d ↔ c.toLower = d := by
  obtain ⟨b, hb, hclass⟩ := byte_at_cons c.utf8Size_pos cs
  have hbeq : (b.toLower == d) = (c.toLower == d) :=
    hclass (fun x => x.toLower == d) (ascii_only_beq hd).comp_to_lower.bytewise
  rw [hb, Option.map_some, Option.some.injEq, ← beq_iff_eq, hbeq, beq_iff_eq]

theorem bytes_of_cons {c : Char} (hc : c.toNat < 128) (cs : List Char) (n : Option Nat) :
    (bytesOf cs n).map (1 + ·) = bytesOf (c :: cs) (n.map (1 + ·)) := by
  cases n with
  | none => rfl
  | some n => simp [bytesOf, Nat.add_comm 1, byteLength, utf8_size_of_ascii hc]

theorem bytes_of_le {cs : List Char} {n : Option Nat} {k : Nat} (h : bytesOf cs n = some k) :
    k ≤ byteLength cs := by
  obtain ⟨m, _, rfl⟩ := Option.map_eq_some_iff.mp h
  have := byte_length_take_add_drop m cs
  omega

end ArmTokens
