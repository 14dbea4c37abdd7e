import ArmTokens.Pattern.CharClass
import ArmTokens.Proofs.Dump.SelfDelimiting
import ArmTokens.Text.Quoted

/-!
# Quoted texts can be read back

Behind a backslash stands one letter, or `u` and the code point. So the escapes
of one character can be read back whatever follows them, and a quoted text ends
at the first quote that no escape takes. The two ways to quote differ in their
letters and in how the digits of a code point end.
-/

set_option autoImplicit false

namespace ArmTokens.Quoted

def hexDigitValue (c : Char) : Nat :=
  if c.isDigit then c.toNat - '0'.toNat else c.toNat - 'a'.toNat + 10

def hexValue (ds : List Char) : Nat := ds.foldl (fun n d => 16 * n + hexDigitValue d) 0

/-- The character of an escape, and what stands behind it. -/
def readEscape (letter? : Char → Option Char) (code? : List Char → Option (Char × List Char)) :
    List Char → Option (Char × List Char)
  | '\\' :: 'u' :: cs => code? cs
  | '\\' :: l :: cs => (letter? l).map (·, cs)
  | c :: cs => some (c, cs)
  | [] => none

def plainLetter? : Char → Option Char
  | '0' => some '\x00'
  | 't' => some '\t'
  | 'r' => some '\r'
  | 'n' => some '\n'
  | '"' => some '"'
  | '\\' => some '\\'
  | _ => none

def jsonLetter? : Char → Option Char
  | '"' => some '"'
  | '\\' => some '\\'
  | 'b' => some '\x08'
  | 'f' => some '\x0c'
  | 'n' => some '\n'
  | 'r' => some '\r'
  | 't' => some '\t'
  | _ => none

def bracedCode? : List Char → Option (Char × List Char)
  | '\x7b' :: cs =>
    some (Char.ofNat (hexValue (cs.takeWhile isHexDigit)), (cs.dropWhile isHexDigit).drop 1)
  | _ => none

def fourDigits? : List Char → Option (Char × List Char)
  | a :: b :: c :: d :: cs => some (Char.ofNat (hexValue [a, b, c, d]), cs)
  | _ => none

theorem digit_char_hex : ∀ d < 16,
    isHexDigit (Nat.digitChar d) = true ∧ hexDigitValue (Nat.digitChar d) = d := by
  decide

theorem hex_value_append (ds : List Char) (d : Char) :
    hexValue (ds ++ [d]) = 16 * hexValue ds + hexDigitValue d := by
  rw [hexValue, List.foldl_append]
  rfl

theorem hex_digits (n : Nat) :
    (∀ c ∈ Nat.toDigits 16 n, isHexDigit c = true) ∧ hexValue (Nat.toDigits 16 n) = n := by
  induction n using Nat.strongRecOn with
  | ind n ih =>
    obtain ⟨hdigit, hvalue⟩ := digit_char_hex (n % 16) (Nat.mod_lt n (by decide))
    by_cases hn : n < 16
    · rw [Nat.mod_eq_of_lt hn] at hdigit hvalue
      rw [Nat.toDigits_of_lt_base hn]
      exact ⟨by simpa using hdigit, by simpa [hexValue] using hvalue⟩
    · obtain ⟨hdigits, hvalues⟩ := ih (n / 16) (by omega)
      rw [Nat.toDigits_of_base_le (by decide) (by omega), hex_value_append, hvalues, hvalue]
      refine ⟨?_, Nat.div_add_mod n 16⟩
      intro c hc
      rcases List.mem_append.mp hc with hc | hc
      · exact hdigits c hc
      · exact List.mem_singleton.mp hc ▸ hdigit

theorem braced_code (c : Char) (z : List Char) :
    bracedCode? ('\x7b' :: (Nat.toDigits 16 c.toNat ++ '\x7d' :: z)) = some (c, z) := by
  obtain ⟨hdigits, hvalue⟩ := hex_digits c.toNat
  have hbrace : ¬isHexDigit '\x7d' = true := by decide
  rw [bracedCode?, List.takeWhile_append_of_pos hdigits, List.takeWhile_cons_of_neg hbrace,
    List.dropWhile_append_of_pos hdigits, List.dropWhile_cons_of_neg hbrace, List.append_nil,
    hvalue, Char.ofNat_toNat]
  rfl

theorem four_digits {c : Char} (hc : c < ' ') (z : List Char) :
    fourDigits? ('0' :: '0' :: Nat.digitChar (c.toNat / 16) :: Nat.digitChar (c.toNat % 16) :: z) =
      some (c, z) := by
  have hlt : c.toNat < 32 := hc
  have hhigh := (digit_char_hex (c.toNat / 16) (by omega)).2
  have hlow := (digit_char_hex (c.toNat % 16) (Nat.mod_lt _ (by decide))).2
  have hvalue : hexValue ['0', '0', Nat.digitChar (c.toNat / 16), Nat.digitChar (c.toNat % 16)] =
      c.toNat := by
    show 16 * (16 * 0 + hexDigitValue _) + hexDigitValue _ = c.toNat
    rw [hhigh, hlow]
    omega
  rw [fourDigits?, hvalue, Char.ofNat_toNat]

theorem read_escape_self {letter? : Char → Option Char}
    {code? : List Char → Option (Char × List Char)} {c : Char} (hc : c ≠ '\\') (z : List Char) :
    readEscape letter? code? (c :: z) = some (c, z) := by
  unfold readEscape
  split <;> simp_all

theorem read_escape_plain [PrintClass] (c : Char) (z : List Char) :
    readEscape plainLetter? bracedCode? (escapePlain c ++ z) = some (c, z) := by
  unfold escapePlain
  split
  case h_7 hslash =>
    split
    · exact read_escape_self hslash z
    · simpa [readEscape] using braced_code c z
  all_goals rfl

theorem read_escape_json (c : Char) (z : List Char) :
    readEscape jsonLetter? fourDigits? (escapeJson c ++ z) = some (c, z) := by
  unfold escapeJson
  split
  case h_8 hslash _ _ _ _ _ =>
    split
    · next hc => exact four_digits hc z
    · exact read_escape_self hslash z
  all_goals rfl

/-- An escape that can be read back begins with the quote only for the quote itself, and there it
begins with a backslash. -/
theorem quote_self_delimiting {escape : Char → List Char} {letter? : Char → Option Char}
    {code? : List Char → Option (Char × List Char)}
    (hread : ∀ c z, readEscape letter? code? (escape c ++ z) = some (c, z))
    (hquote : escape '"' = ['\\', '"']) : SelfDelimiting (quote escape) := by
  have hstop : ∀ c y z, escape c ++ y ≠ '"' :: z := by
    intro c y z heq
    have hself := hread c y
    rw [heq, read_escape_self (by decide)] at hself
    obtain ⟨rfl, rfl⟩ := Prod.mk.inj (Option.some.inj hself)
    rw [hquote] at heq
    exact absurd (List.cons.inj heq).1 (by decide)
  constructor
  intro as bs y z heq
  exact ((SelfDelimiting.of_read hread).row hstop).front (List.cons.inj heq).2

theorem plain_self_delimiting [PrintClass] : SelfDelimiting Quoted.plain :=
  quote_self_delimiting read_escape_plain rfl

theorem json_self_delimiting : SelfDelimiting Quoted.json :=
  quote_self_delimiting read_escape_json rfl

theorem no_feed_of_escape [PrintClass] (c : Char) : '\n' ∉ escapePlain c := by
  unfold escapePlain
  split
  case h_7 hfeed _ _ =>
    split
    · simpa using Ne.symm hfeed
    · have hdigits : '\n' ∉ Nat.toDigits 16 c.toNat := fun h =>
        absurd ((hex_digits c.toNat).1 _ h) (by decide)
      simpa using hdigits
  all_goals decide

theorem no_feed_of_plain [PrintClass] (text : List Char) : '\n' ∉ Quoted.plain text := by
  simp [Quoted.plain, Quoted.quote, no_feed_of_escape]

end ArmTokens.Quoted
