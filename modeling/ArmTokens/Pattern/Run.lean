/-!
# Runs of characters

How many characters at the start of a text belong to a class. A run is as long
as possible: the character after it, if there is one, is not in the class.
-/

set_option autoImplicit false

namespace ArmTokens

def runLength (p : Char → Bool) (cs : List Char) : Nat := (cs.takeWhile p).length

/-- The length of a run that may not be empty. -/
def runLength? (p : Char → Bool) (cs : List Char) : Option Nat :=
  match runLength p cs with
  | 0 => none
  | n + 1 => some (n + 1)

def oneOf? (p : Char → Bool) : List Char → Option Nat
  | [] => none
  | c :: _ => if p c then some 1 else none

theorem run_length_le (p : Char → Bool) (cs : List Char) : runLength p cs ≤ cs.length :=
  (List.takeWhile_sublist p).length_le

theorem take_run_length (p : Char → Bool) (cs : List Char) :
    cs.take (runLength p cs) = cs.takeWhile p := by
  induction cs with
  | nil => rfl
  | cons c cs ih =>
    by_cases h : p c
    · simpa [runLength, List.takeWhile_cons, h] using ih
    · simp [runLength, h]

theorem drop_run_length (p : Char → Bool) (cs : List Char) :
    cs.drop (runLength p cs) = cs.dropWhile p := by
  induction cs with
  | nil => rfl
  | cons c cs ih =>
    by_cases h : p c
    · simpa [runLength, List.takeWhile_cons, List.dropWhile_cons, h] using ih
    · simp [runLength, h]

theorem run_length_bounds {p : Char → Bool} {cs : List Char} {n : Nat}
    (h : runLength? p cs = some n) : 0 < n ∧ n ≤ cs.length := by
  have hle := run_length_le p cs
  unfold runLength? at h
  split at h
  · simp at h
  · next k hk =>
    simp only [Option.some.injEq] at h
    omega

theorem one_of_bounds {p : Char → Bool} {cs : List Char} {n : Nat}
    (h : oneOf? p cs = some n) : 0 < n ∧ n ≤ cs.length := by
  cases cs with
  | nil => simp [oneOf?] at h
  | cons c cs =>
    simp only [oneOf?, Option.ite_none_right_eq_some, Option.some.injEq] at h
    simp only [List.length_cons]
    omega

end ArmTokens
