/-!
# Texts measured in UTF-8 bytes

Offsets and lengths count the bytes of a text, so a text may be cut only where
a character ends. `splitAtByte?` cuts there and nowhere else, and the two parts
always give back the whole.
-/

set_option autoImplicit false

namespace ArmTokens

def byteLength : List Char → Nat
  | [] => 0
  | c :: cs => c.utf8Size + byteLength cs

@[simp] theorem byte_length_append (as bs : List Char) :
    byteLength (as ++ bs) = byteLength as + byteLength bs := by
  induction as with
  | nil => simp [byteLength]
  | cons a as ih => simp [byteLength, ih, Nat.add_assoc]

theorem length_le_byte_length (cs : List Char) : cs.length ≤ byteLength cs := by
  induction cs with
  | nil => simp [byteLength]
  | cons c cs ih =>
    have hc := c.utf8Size_pos
    simp only [List.length_cons, byteLength]
    omega

theorem byte_length_of_list (cs : List Char) : byteLength cs = (String.ofList cs).utf8ByteSize := by
  induction cs with
  | nil => simp [byteLength]
  | cons c cs ih =>
    have hsplit : String.ofList (c :: cs) = String.singleton c ++ String.ofList cs := by
      rw [String.singleton_eq_ofList, ← String.ofList_append, List.singleton_append]
    rw [byteLength, ih, hsplit, String.utf8ByteSize_append, String.utf8ByteSize_singleton]

theorem byte_length_to_list (text : String) : byteLength text.toList = text.utf8ByteSize := by
  rw [byte_length_of_list, String.ofList_toList]

/-- Parts a text after its first `n` bytes. There is no answer when `n` passes
the end or falls inside a character. -/
def splitAtByte? : Nat → List Char → Option (List Char × List Char)
  | 0, cs => some ([], cs)
  | _ + 1, [] => none
  | n + 1, c :: cs =>
    if c.utf8Size ≤ n + 1 then
      (splitAtByte? (n + 1 - c.utf8Size) cs).map fun (left, right) => (c :: left, right)
    else none

theorem split_at_byte_append (as bs : List Char) :
    splitAtByte? (byteLength as) (as ++ bs) = some (as, bs) := by
  induction as with
  | nil => simp [byteLength, splitAtByte?]
  | cons a as ih =>
    obtain ⟨k, hk⟩ : ∃ k, a.utf8Size + byteLength as = k + 1 :=
      ⟨a.utf8Size + byteLength as - 1, by have := a.utf8Size_pos; omega⟩
    have hle : a.utf8Size ≤ k + 1 := by omega
    have hsub : k + 1 - a.utf8Size = byteLength as := by omega
    simp [byteLength, hk, splitAtByte?, hle, hsub, ih]

def slice? (cs : List Char) (start stop : Nat) : Option (List Char) :=
  if start ≤ stop then
    (splitAtByte? start cs).bind fun (_, rest) => (splitAtByte? (stop - start) rest).map (·.1)
  else none

theorem slice_append (as bs cs : List Char) :
    slice? (as ++ bs ++ cs) (byteLength as) (byteLength as + byteLength bs) = some bs := by
  simp [slice?, List.append_assoc, split_at_byte_append]

end ArmTokens
