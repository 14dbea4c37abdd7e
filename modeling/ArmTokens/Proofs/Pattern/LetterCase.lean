import ArmTokens.Proofs.Pattern.Locality

/-!
# Letter case

Two texts are alike when they differ in the case of letters alone, and agree on
every `u` behind a backslash. No matcher tells such texts apart: the classes do
not ask for the case of a letter, and of the escapes only the two with `u` do.
-/

set_option autoImplicit false

namespace ArmTokens

/-- Two texts that differ in the case of ASCII letters at most. -/
structure Alike (cs ds : List Char) : Prop where
  folded : cs.map Char.toLower = ds.map Char.toLower
  /-- A `u` of either case behind a backslash is the same letter in the other text. -/
  marked : ∀ i, cs[i]? = some '\\' → cs[i + 1]?.map Char.toLower = some 'u' →
    ds[i + 1]? = cs[i + 1]?

instance (cs ds : List Char) : Decidable (Alike cs ds) :=
  decidable_of_iff (cs.map Char.toLower = ds.map Char.toLower ∧ ∀ i < cs.length,
      cs[i]? = some '\\' → cs[i + 1]?.map Char.toLower = some 'u' → ds[i + 1]? = cs[i + 1]?)
    ⟨fun h => ⟨h.1, fun i hi => h.2 i (List.getElem?_eq_some_iff.mp hi).1 hi⟩,
      fun h => ⟨h.folded, fun i _ => h.marked i⟩⟩

def Caseless {α : Type} (p : Char → α) : Prop := ∀ c, p c.toLower = p c

def FoldsCase {α : Type} (f : List Char → α) : Prop := ∀ cs, f (cs.map Char.toLower) = f cs

/-- The matcher takes as much of one text as of another that is alike. -/
def CaseBlind (f : List Char → Option Nat) : Prop := ∀ cs ds, Alike cs ds → f cs = f ds

/-! ## Classes -/

/-- Only the letters from `A` to `Z` are put into lower case. -/
theorem caseless_of_letters {α : Type} {p : Char → α}
    (h : ∀ n < 26, p (Char.ofNat (65 + n)).toLower = p (Char.ofNat (65 + n))) : Caseless p := by
  intro c
  by_cases hc : c.isUpper = true
  · have hrange : 'A'.val ≤ c.val ∧ c.val ≤ 'Z'.val := of_decide_eq_true hc
    have hlo : 65 ≤ c.toNat := hrange.1
    have hhi : c.toNat ≤ 90 := hrange.2
    have hletter := h (c.toNat - 65) (by omega)
    rwa [show 65 + (c.toNat - 65) = c.toNat by omega, Char.ofNat_toNat] at hletter
  · have hsame : c.toLower = c := dif_neg fun hrange => hc (decide_eq_true hrange)
    rw [hsame]

theorem caseless_beq {a : Char} (ha : a.isAlpha = false) : Caseless (· == a) := by
  have hletters : ∀ n < 26, (Char.ofNat (65 + n)).isAlpha = true ∧
      (Char.ofNat (65 + n)).toLower.isAlpha = true := by decide
  have hother : ∀ c : Char, c.isAlpha = true → (c == a) = false := by
    intro c hc
    rw [beq_eq_false_iff_ne]
    rintro rfl
    rw [ha] at hc
    cases hc
  apply caseless_of_letters
  intro n hn
  rw [hother _ (hletters n hn).1, hother _ (hletters n hn).2]

theorem Caseless.eq {α : Type} {p : Char → α} (hp : Caseless p) {c d : Char}
    (h : c.toLower = d.toLower) : p c = p d := by
  rw [← hp c, h, hp d]

theorem eq_iff_of_to_lower {a c d : Char} (ha : a.isAlpha = false) (h : c.toLower = d.toLower) :
    c = a ↔ d = a := by
  have heq : (c == a) = (d == a) := (caseless_beq ha).eq h
  rw [← beq_iff_eq, heq, beq_iff_eq]

theorem Caseless.map {α : Type} {p : Char → α} (hp : Caseless p) : FoldsCase (List.map p) := by
  intro cs
  rw [List.map_map]
  exact List.map_congr_left fun c _ => hp c

theorem FoldsCase.eq {α : Type} {f : List Char → α} (hf : FoldsCase f) {cs ds : List Char}
    (h : cs.map Char.toLower = ds.map Char.toLower) : f cs = f ds := by
  rw [← hf cs, h, hf ds]

theorem folds_case_run {p : Char → Bool} (hp : Caseless p) : FoldsCase (runLength p) := by
  intro cs
  have hcomp : p ∘ Char.toLower = p := funext hp
  rw [runLength, List.takeWhile_map, hcomp, List.length_map, runLength]

/-! ## Texts that are alike -/

namespace Alike

theorem nil_eq {ds : List Char} (h : Alike [] ds) : ds = [] :=
  List.map_eq_nil_iff.mp h.folded.symm

theorem length_eq {cs ds : List Char} (h : Alike cs ds) : cs.length = ds.length := by
  simpa using congrArg List.length h.folded

theorem drop {cs ds : List Char} (h : Alike cs ds) (n : Nat) :
    Alike (cs.drop n) (ds.drop n) := by
  constructor
  · rw [List.map_drop, h.folded, List.map_drop]
  · intro i hi hu
    rw [List.getElem?_drop] at hi hu ⊢
    rw [List.getElem?_drop]
    exact h.marked (n + i) hi hu

theorem cons_inv {c : Char} {cs ds : List Char} (h : Alike (c :: cs) ds) :
    ∃ d tail, ds = d :: tail ∧ c.toLower = d.toLower ∧ Alike cs tail := by
  cases ds with
  | nil => cases h.folded
  | cons d tail => exact ⟨d, tail, rfl, (List.cons.inj h.folded).1, h.drop 1⟩

end Alike

/-! ## Matchers -/

namespace CaseBlind

theorem by_head {k : Char → List Char → Option Nat}
    (hk : ∀ c d, c.toLower = d.toLower → ∀ cs ds, Alike cs ds → k c cs = k d ds) :
    CaseBlind (byHead k) := by
  intro cs ds h
  cases cs with
  | nil => rw [h.nil_eq]
  | cons c cs =>
    obtain ⟨d, tail, rfl, hcd, htail⟩ := h.cons_inv
    rw [byHead, byHead, hk c d hcd cs tail htail]

theorem in_class {p : Char → Bool} (hp : Caseless p) {f : List Char → Option Nat}
    (hf : CaseBlind f) : CaseBlind (byHead fun c cs => if p c then f cs else none) := by
  apply CaseBlind.by_head
  intro c d hcd cs ds h
  rw [hp.eq hcd, hf cs ds h]

theorem headed {a : Char} (ha : a.isAlpha = false) {f : List Char → Option Nat}
    (hf : CaseBlind f) : CaseBlind (headed a f) := by
  apply CaseBlind.by_head
  intro c d hcd cs ds h
  rw [hf cs ds h]
  simp only [eq_iff_of_to_lower ha hcd]

theorem in_turn {f g : List Char → Option Nat} (hf : CaseBlind f) (hg : CaseBlind g) :
    CaseBlind (inTurn f g) := by
  intro cs ds h
  rw [inTurn, inTurn, hf cs ds h]
  congr 1
  ext n : 1
  rw [hg _ _ (h.drop n)]

theorem of_folds_case {f : List Char → Option Nat} (hf : FoldsCase f) : CaseBlind f :=
  fun _ _ h => hf.eq h.folded

theorem run {p : Char → Bool} (hp : Caseless p) : CaseBlind fun cs => some (runLength p cs) :=
  of_folds_case fun cs => congrArg some (folds_case_run hp cs)

end CaseBlind

theorem case_blind_one_of {p : Char → Bool} (hp : Caseless p) : CaseBlind (oneOf? p) := by
  rw [one_of_eq]
  exact CaseBlind.in_class hp fun _ _ _ => rfl

theorem case_blind_run {p : Char → Bool} (hp : Caseless p) : CaseBlind (runLength? p) := by
  rw [run_some_eq]
  exact CaseBlind.in_class hp (CaseBlind.run hp)

theorem case_blind_line {leader : List Char} (h : leader.any Char.isAlpha = false) :
    CaseBlind (Pattern.lineLength? leader) := by
  induction leader with
  | nil =>
    rw [line_nil_eq]
    exact CaseBlind.run (caseless_of_letters (by decide))
  | cons a leader ih =>
    rw [line_cons_eq]
    obtain ⟨ha, hleader⟩ := Bool.or_eq_false_iff.mp (List.any_cons.symm.trans h)
    exact CaseBlind.headed ha (ih hleader)

namespace Radix

theorem case_blind_unsigned (r : Radix) : CaseBlind r.unsignedLength? := by
  have hlead : CaseBlind r.leadLength? := by
    by_cases hr : r = .dec
    · rw [hr, lead_dec_eq]
      exact fun _ _ _ => rfl
    · have hmark : Caseless r.isMark := by
        cases r <;> exact caseless_of_letters (by decide)
      rw [lead_eq hr]
      exact CaseBlind.headed rfl (case_blind_one_of hmark)
  have hdigits : CaseBlind r.digitsLength? := by
    have hdigit : Caseless r.isDigit := by
      cases r <;> exact caseless_of_letters (by decide)
    have hgap : Caseless r.isDigitOrGap := by
      cases r <;> exact caseless_of_letters (by decide)
    rw [digits_eq]
    exact CaseBlind.in_class hdigit (CaseBlind.run hgap)
  exact CaseBlind.in_turn hlead hdigits

theorem case_blind_sign : CaseBlind signLength? := by
  intro cs ds h
  cases cs with
  | nil => rw [h.nil_eq]
  | cons c cs =>
    obtain ⟨d, tail, rfl, hcd, _⟩ := h.cons_inv
    have hminus : c = '-' ↔ d = '-' := eq_iff_of_to_lower rfl hcd
    simp only [signLength?, List.head?_cons, Option.some.injEq, hminus]

theorem case_blind_literal (r : Radix) : CaseBlind r.literalLength? := by
  rw [literal_eq]
  exact CaseBlind.in_turn case_blind_sign r.case_blind_unsigned

theorem case_blind_immediate (r : Radix) : CaseBlind r.immediateLength? := by
  rw [immediate_eq]
  exact CaseBlind.headed rfl r.case_blind_literal

end Radix

theorem folds_case_open_body : FoldsCase openBodyLength? := by
  have hline : Caseless isLineEnd := caseless_of_letters (by decide)
  have hlower : ∀ c : Char, c.toLower.toLower = c.toLower := caseless_of_letters (by decide)
  intro cs
  fun_induction openBodyLength? cs with
  | case1 => rfl
  | case2 c cs hend =>
    rw [List.map_cons, List.map_cons, show '\\'.toLower = '\\' from rfl, openBodyLength?, hline c,
      if_pos hend]
  | case3 c cs hend ih =>
    rw [List.map_cons, List.map_cons, show '\\'.toLower = '\\' from rfl, openBodyLength?, hline c,
      if_neg hend, ih]
  | case4 c cs hne hend =>
    have hbreak : isLineEnd c.toLower = true := by rw [hline c, hend]
    exact open_body_at_line_end (at_line_end_cons.mpr hbreak)
  | case5 c cs hne hend hstop =>
    rcases hstop with rfl | rfl
    · rfl
    · cases cs with
      | nil => rfl
      | cons d cs => exact absurd rfl (hne d cs rfl)
  | case6 c cs hne hend hstop ih =>
    obtain ⟨hq, hb⟩ := not_or.mp hstop
    have hq' : c.toLower ≠ '"' := fun h => hq ((eq_iff_of_to_lower rfl (hlower c)).mp h)
    have hb' : c.toLower ≠ '\\' := fun h => hb ((eq_iff_of_to_lower rfl (hlower c)).mp h)
    have hbreak : isLineEnd c.toLower = false := by rw [hline c, Bool.eq_false_iff]; exact hend
    rw [List.map_cons, open_body_plain hq' hb' hbreak, ih]

theorem case_blind_open_string : CaseBlind openStringLength? := by
  rw [open_string_eq]
  exact CaseBlind.headed rfl (.of_folds_case folds_case_open_body)

theorem case_blind_any_escape : CaseBlind anyEscapeLength? := by
  rw [any_escape_eq]
  exact CaseBlind.headed rfl
    (case_blind_one_of (caseless_of_letters (by decide)))

theorem escape_digits_eq {c d : Char} (h : c.toLower = d.toLower)
    (hu : c.toLower = 'u' → d = c) : escapeDigits? c = escapeDigits? d := by
  by_cases hmark : c.toLower = 'u'
  · rw [hu hmark]
  · have hlower : ∀ e : Char, e.toLower = c.toLower → e ≠ 'u' ∧ e ≠ 'U' := by
      intro e he
      constructor <;> rintro rfl <;> exact hmark he.symm
    have hsimple : isSimpleEscape c = isSimpleEscape d := by
      rw [isSimpleEscape, isSimpleEscape, h]
    have hhex : (Radix.isMark .hex c) = Radix.isMark .hex d :=
      Caseless.eq (caseless_of_letters (by decide)) h
    simp only [Radix.isMark] at hhex
    have hx : (c = 'x' ∨ c = 'X') ↔ (d = 'x' ∨ d = 'X') := by
      rw [← beq_iff_eq, ← beq_iff_eq (a := c) (b := 'X'), ← Bool.or_eq_true, hhex,
        Bool.or_eq_true, beq_iff_eq, beq_iff_eq]
    obtain ⟨hcu, hcU⟩ := hlower c rfl
    obtain ⟨hdu, hdU⟩ := hlower d h.symm
    simp only [escapeDigits?, hcu, hcU, hdu, hdU, if_false, hsimple, hx]

theorem case_blind_escape : CaseBlind escapeLength? := by
  have hhex : Caseless isHexDigit := caseless_of_letters (by decide)
  rw [escape_eq]
  intro cs ds h
  match cs with
  | [] => rw [h.nil_eq]
  | [a] =>
    obtain ⟨b, ds, rfl, hab, hds⟩ := h.cons_inv
    have hback : a = '\\' ↔ b = '\\' := eq_iff_of_to_lower rfl hab
    rw [hds.nil_eq, headed, byHead, byHead]
    simp only [hback]
  | a :: c :: cs =>
    obtain ⟨b, ds, rfl, hab, hds⟩ := h.cons_inv
    obtain ⟨d, ds, rfl, hcd, hds⟩ := hds.cons_inv
    have hback : a = '\\' ↔ b = '\\' := eq_iff_of_to_lower rfl hab
    by_cases hslash : a = '\\'
    · have hmarked : c.toLower = 'u' → d = c := by
        intro hu
        exact Option.some.inj (h.marked 0 (congrArg some hslash) (congrArg some hu))
      rw [hslash, hback.mp hslash, headed_cons, headed_cons, escapeTail?, byHead, byHead,
        escape_digits_eq hcd hmarked, (folds_case_run hhex).eq hds.folded]
    · rw [headed, byHead, byHead, if_neg hslash, if_neg (mt hback.mpr hslash)]

theorem case_blind_char_literal : CaseBlind charLiteralLength? := by
  have hquote : CaseBlind (oneOf? (· == '\'')) :=
    case_blind_one_of (caseless_of_letters (by decide))
  have hbody : CaseBlind (oneOf? fun c => c != '\\' && c != '\'') :=
    case_blind_one_of (caseless_of_letters (by decide))
  rw [char_literal_eq]
  exact CaseBlind.headed rfl (CaseBlind.in_turn hbody hquote)

theorem case_blind_char_escape : CaseBlind charEscapeLength? := by
  have hquote : CaseBlind (oneOf? (· == '\'')) :=
    case_blind_one_of (caseless_of_letters (by decide))
  rw [char_escape_eq]
  exact CaseBlind.headed rfl
    (CaseBlind.in_turn case_blind_escape hquote)

theorem Pattern.case_blind (p : Pattern) : CaseBlind p.matchLength? := by
  cases p with
  | identifier =>
    show CaseBlind identifierLength?
    rw [identifier_eq]
    exact CaseBlind.in_class (caseless_of_letters (by decide))
      (CaseBlind.run (caseless_of_letters (by decide)))
  | whitespace => exact case_blind_run (caseless_of_letters (by decide))
  | bracket => exact case_blind_one_of (caseless_of_letters (by decide))
  | symbols => exact case_blind_run (caseless_of_letters (by decide))
  | immediate r => exact r.case_blind_immediate
  | bare r => exact r.case_blind_literal
  | delimiter => exact case_blind_one_of (caseless_of_letters (by decide))
  | openString => exact case_blind_open_string
  | doubleQuote => exact case_blind_one_of (caseless_of_letters (by decide))
  | charLiteral => exact case_blind_char_literal
  | charEscape => exact case_blind_char_escape
  | singleQuote => exact case_blind_one_of (caseless_of_letters (by decide))
  | escape => exact case_blind_escape
  | anyEscape => exact case_blind_any_escape
  | comment => exact case_blind_line rfl
  | expectPass => exact case_blind_line rfl
  | expectFail => exact case_blind_line rfl
  | stringText => exact case_blind_run (caseless_of_letters (by decide))

end ArmTokens
