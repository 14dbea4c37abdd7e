import ArmTokens.Pattern.CharClass
import ArmTokens.Pattern.Run

/-!
# Strings, characters and escapes

The text from a `"` to the end of its line is an open string, unless another `"`
or a backslash at the end of the line comes first. Escapes take letters of either
case, except that `\u` and `\U` differ in how many digits they need.
-/

set_option autoImplicit false

namespace ArmTokens

def isSimpleEscape (c : Char) : Bool :=
  ['a', 'b', 'f', 'n', 'r', 't', 'v', '\\', '"', '\''].contains c.toLower

/-- A recognised escape. After `\x` it takes up to four hex digits, after `\u`
exactly four and after `\U` exactly eight. -/
def escapeLength? : List Char → Option Nat
  | '\\' :: c :: cs =>
    if c = 'u' then if 4 ≤ runLength isHexDigit cs then some 6 else none
    else if c = 'U' then if 8 ≤ runLength isHexDigit cs then some 10 else none
    else if isSimpleEscape c then some 2
    else if c = 'x' ∨ c = 'X' then
      if 1 ≤ runLength isHexDigit cs then some (2 + min 4 (runLength isHexDigit cs)) else none
    else none
  | _ => none

def anyEscapeLength? : List Char → Option Nat
  | '\\' :: c :: _ => if isLineEnd c then none else some 2
  | _ => none

/-- The body of a string up to the end of its line, when no `"` closes it there.
A backslash takes the character after it along, which has to be on the line. -/
def openBodyLength? : List Char → Option Nat
  | [] => some 0
  | '\\' :: c :: cs => if isLineEnd c then none else (openBodyLength? cs).map (2 + ·)
  | c :: cs =>
    if isLineEnd c then some 0
    else if c = '"' ∨ c = '\\' then none
    else (openBodyLength? cs).map (1 + ·)

def openStringLength? : List Char → Option Nat
  | '"' :: cs => (openBodyLength? cs).map (1 + ·)
  | _ => none

def isStringText (c : Char) : Bool := c != '"' && c != '\\'

def charLiteralLength? : List Char → Option Nat
  | '\'' :: c :: '\'' :: _ => if c = '\\' ∨ c = '\'' then none else some 3
  | _ => none

def charEscapeLength? : List Char → Option Nat
  | '\'' :: cs => (escapeLength? cs).bind fun n =>
    if (cs.drop n).head? = some '\'' then some (n + 2) else none
  | _ => none

theorem escape_length_bounds {cs : List Char} {n : Nat} (h : escapeLength? cs = some n) :
    2 ≤ n ∧ n ≤ cs.length := by
  unfold escapeLength? at h
  split at h
  · next c cs =>
    have hr := run_length_le isHexDigit cs
    simp only [List.length_cons]
    repeat' split at h
    all_goals simp only [Option.some.injEq, reduceCtorEq] at h
    all_goals omega
  · simp at h

theorem any_escape_length_bounds {cs : List Char} {n : Nat} (h : anyEscapeLength? cs = some n) :
    0 < n ∧ n ≤ cs.length := by
  unfold anyEscapeLength? at h
  split at h
  · split at h <;> simp only [Option.some.injEq, reduceCtorEq] at h
    simp only [List.length_cons]
    omega
  · simp at h

theorem open_body_length_le {cs : List Char} {n : Nat} (h : openBodyLength? cs = some n) :
    n ≤ cs.length := by
  fun_induction openBodyLength? cs generalizing n with
  | case1 => simp_all
  | case2 => simp at h
  | case3 c cs _ ih =>
    obtain ⟨m, hm, rfl⟩ := Option.map_eq_some_iff.mp h
    have := ih hm
    simp only [List.length_cons]
    omega
  | case4 =>
    simp only [Option.some.injEq] at h
    omega
  | case5 => simp at h
  | case6 c cs _ _ _ ih =>
    obtain ⟨m, hm, rfl⟩ := Option.map_eq_some_iff.mp h
    have := ih hm
    simp only [List.length_cons]
    omega

theorem open_string_length_bounds {cs : List Char} {n : Nat} (h : openStringLength? cs = some n) :
    0 < n ∧ n ≤ cs.length := by
  unfold openStringLength? at h
  split at h
  · obtain ⟨m, hm, rfl⟩ := Option.map_eq_some_iff.mp h
    have := open_body_length_le hm
    simp only [List.length_cons]
    omega
  · simp at h

theorem char_literal_length_bounds {cs : List Char} {n : Nat}
    (h : charLiteralLength? cs = some n) : 0 < n ∧ n ≤ cs.length := by
  unfold charLiteralLength? at h
  split at h
  · split at h <;> simp only [Option.some.injEq, reduceCtorEq] at h
    simp only [List.length_cons]
    omega
  · simp at h

theorem char_escape_length_bounds {cs : List Char} {n : Nat} (h : charEscapeLength? cs = some n) :
    4 ≤ n ∧ n ≤ cs.length := by
  unfold charEscapeLength? at h
  split at h
  · next cs =>
    obtain ⟨m, hm, h⟩ := Option.bind_eq_some_iff.mp h
    have hb := escape_length_bounds hm
    split at h
    · next hq =>
      simp only [Option.some.injEq] at h
      have hne : cs.drop m ≠ [] := by
        intro hnil
        simp [hnil] at hq
      have hlt : m < cs.length := by
        simpa [List.drop_eq_nil_iff] using hne
      simp only [List.length_cons]
      omega
    · simp at h
  · simp at h

end ArmTokens
