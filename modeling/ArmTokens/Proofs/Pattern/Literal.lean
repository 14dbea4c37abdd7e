import ArmTokens.Proofs.Pattern.Opening

/-!
# How numbers are written

A number is perhaps a `#`, perhaps a sign, what announces its radix, a digit,
and then digits and underscores. The first characters of the digits announce one
radix only, and the number of that radix is the longest there is: a decimal
number in front of the letter of another radix is a lone zero.
-/

set_option autoImplicit false

namespace ArmTokens

def withoutSign : List Char → List Char
  | '-' :: cs => cs
  | cs => cs

def startsNumber (cs : List Char) : Bool := cs.head?.any Char.isDigit

theorem starts_number_iff {cs : List Char} :
    startsNumber cs = true ↔ ∃ c tail, cs = c :: tail ∧ c.isDigit = true := by
  cases cs with
  | nil => simp [startsNumber]
  | cons c cs => simp [startsNumber]

theorem starts_number_append {cs : List Char} (h : startsNumber cs = true) (z : List Char) :
    startsNumber (cs ++ z) = true := by
  obtain ⟨c, tail, rfl, hc⟩ := starts_number_iff.mp h
  exact hc

namespace Radix

def Lead : Radix → List Char → Prop
  | .dec, lead => lead = []
  | r, lead => ∃ m, r.isMark m = true ∧ lead = ['0', m]

def Unsigned (r : Radix) (u : List Char) : Prop :=
  ∃ lead d ds, u = lead ++ d :: ds ∧ r.Lead lead ∧ r.isDigit d = true ∧
    ∀ c ∈ ds, c = '_' ∨ r.isDigit c = true

def Numeral (r : Radix) (u : List Char) : Prop :=
  ∃ mark sign body, u = mark ++ sign ++ body ∧ (mark = [] ∨ mark = ['#']) ∧
    (sign = [] ∨ sign = ['-']) ∧ r.Unsigned body

/-- The radix of the number that a text beginning with a digit begins with. -/
def announced : List Char → Radix
  | '0' :: m :: d :: _ =>
    if Radix.hex.isMark m && Radix.hex.isDigit d then .hex
    else if Radix.bin.isMark m && Radix.bin.isDigit d then .bin
    else .dec
  | _ => .dec

theorem digit_or_gap_iff {r : Radix} {c : Char} :
    r.isDigitOrGap c = true ↔ c = '_' ∨ r.isDigit c = true := by
  rw [isDigitOrGap, Bool.or_eq_true, beq_iff_eq]

theorem not_digit_or_gap_iff {r : Radix} {c : Char} :
    r.isDigitOrGap c = false ↔ c ≠ '_' ∧ r.isDigit c = false := by
  rw [isDigitOrGap, Bool.or_eq_false_iff, beq_eq_false_iff_ne]

theorem lead_iff {r : Radix} (hr : r ≠ .dec) {lead : List Char} :
    r.Lead lead ↔ ∃ m, r.isMark m = true ∧ lead = ['0', m] := by
  cases r with
  | dec => exact absurd rfl hr
  | _ => exact Iff.rfl

theorem lead_length {r : Radix} {lead : List Char} (h : r.Lead lead) (cs : List Char) :
    r.leadLength? (lead ++ cs) = some lead.length := by
  by_cases hr : r = .dec
  · subst hr
    obtain rfl : lead = [] := h
    rfl
  · obtain ⟨m, hm, rfl⟩ := (lead_iff hr).mp h
    rw [lead_eq hr, List.cons_append, headed_cons, List.cons_append, oneOf?, if_pos hm]
    rfl

theorem lead_of_length {r : Radix} {cs : List Char} {k : Nat} (h : r.leadLength? cs = some k) :
    ∃ lead behind, cs = lead ++ behind ∧ r.Lead lead ∧ lead.length = k := by
  by_cases hr : r = .dec
  · subst hr
    exact ⟨[], cs, rfl, rfl, Option.some.inj h⟩
  · rw [lead_eq hr] at h
    obtain ⟨c, tail, k, rfl, hk, rfl⟩ := by_head_some h
    obtain ⟨rfl, hmark⟩ := Option.ite_none_right_eq_some.mp hk
    cases tail with
    | nil => cases hmark
    | cons m tail =>
      obtain ⟨hm, hone⟩ := Option.ite_none_right_eq_some.mp hmark
      obtain rfl := Option.some.inj hone
      exact ⟨['0', m], tail, rfl, (lead_iff hr).mpr ⟨m, hm, rfl⟩, rfl⟩

theorem unsigned_append {r : Radix} {u : List Char} (h : r.Unsigned u) (cs : List Char) :
    ∃ n, r.unsignedLength? (u ++ cs) = some n ∧ u.length ≤ n := by
  obtain ⟨lead, d, ds, rfl, hlead, hd, hds⟩ := h
  have hrun : ds.length ≤ runLength r.isDigitOrGap (ds ++ cs) :=
    le_run (fun c hc => digit_or_gap_iff.mpr (hds c hc)) cs
  refine ⟨lead.length + (1 + runLength r.isDigitOrGap (ds ++ cs)), ?_, ?_⟩
  · rw [List.append_assoc, unsignedLength?, lead_length hlead, Option.bind_some, List.drop_left,
      List.cons_append, digitsLength?, if_pos hd]
    rfl
  · rw [List.length_append, List.length_cons]
    omega

theorem unsigned_eq_some {r : Radix} {cs : List Char} {n : Nat}
    (h : r.unsignedLength? cs = some n) :
    ∃ u behind, cs = u ++ behind ∧ u.length = n ∧ r.Unsigned u ∧
      ∀ c ∈ behind.head?, c ≠ '_' ∧ r.isDigit c = false := by
  have hstop := r.greedy_unsigned cs n h
  obtain ⟨lead, hlead, h⟩ := Option.bind_eq_some_iff.mp h
  obtain ⟨m, hm, rfl⟩ := Option.map_eq_some_iff.mp h
  obtain ⟨lead, behind, rfl, hform, rfl⟩ := lead_of_length hlead
  rw [List.drop_left] at hm
  cases behind with
  | nil => cases hm
  | cons d tail =>
    obtain ⟨hd, hrun⟩ := Option.ite_none_right_eq_some.mp hm
    obtain rfl := Option.some.inj hrun
    have hsplit : tail = tail.takeWhile r.isDigitOrGap ++ tail.dropWhile r.isDigitOrGap :=
      List.takeWhile_append_dropWhile.symm
    refine ⟨lead ++ d :: tail.takeWhile r.isDigitOrGap, tail.dropWhile r.isDigitOrGap,
      ?_, ?_, ?_, ?_⟩
    · rw [List.append_assoc, List.cons_append, ← hsplit]
    · rw [List.length_append, List.length_cons, runLength, Nat.add_comm 1]
    · refine ⟨lead, d, _, rfl, hform, hd, ?_⟩
      intro c hc
      exact digit_or_gap_iff.mp (List.all_eq_true.mp List.all_takeWhile c hc)
    · intro c hc
      have hhead := List.head?_dropWhile_not r.isDigitOrGap tail
      rw [Option.mem_def.mp hc] at hhead
      exact not_digit_or_gap_iff.mp hhead

theorem not_bin_of_hex_mark {m : Char} (h : Radix.hex.isMark m = true) :
    Radix.bin.isMark m = false := by
  rcases Bool.or_eq_true_iff.mp h with h | h
  · rw [beq_iff_eq.mp h]
    rfl
  · rw [beq_iff_eq.mp h]
    rfl

theorem announced_eq_iff {r : Radix} (hr : r ≠ .dec) {cs : List Char} :
    announced cs = r ↔
      ∃ m d tail, cs = '0' :: m :: d :: tail ∧ r.isMark m = true ∧ r.isDigit d = true := by
  constructor
  · rintro rfl
    unfold announced at hr ⊢
    split at hr
    · next m d tail =>
      refine ⟨m, d, tail, rfl, ?_⟩
      split
      · next h => exact Bool.and_eq_true_iff.mp h
      · split
        · next h => exact Bool.and_eq_true_iff.mp h
        · next hhex hbin => simp [hhex, hbin] at hr
    · exact absurd rfl hr
  · rintro ⟨m, d, tail, rfl, hm, hd⟩
    cases r with
    | dec => exact absurd rfl hr
    | hex => simp [announced, hm, hd]
    | bin =>
      have hhex : Radix.hex.isMark m = false := by
        rw [← Bool.not_eq_true]
        intro hhex
        rw [not_bin_of_hex_mark hhex] at hm
        cases hm
      simp [announced, hhex, hm, hd]

theorem announced_iff_some {r : Radix} (hr : r ≠ .dec) {cs : List Char} :
    announced cs = r ↔ (r.unsignedLength? cs).isSome = true := by
  rw [announced_eq_iff hr, Option.isSome_iff_exists]
  constructor
  · rintro ⟨m, d, tail, rfl, hm, hd⟩
    have hform : r.Unsigned ['0', m, d] :=
      ⟨['0', m], d, [], rfl, (lead_iff hr).mpr ⟨m, hm, rfl⟩, hd, List.forall_mem_nil _⟩
    obtain ⟨n, hn, _⟩ := unsigned_append hform tail
    exact ⟨n, hn⟩
  · rintro ⟨n, hn⟩
    obtain ⟨u, behind, rfl, _, ⟨lead, d, ds, rfl, hlead, hd, _⟩, _⟩ := unsigned_eq_some hn
    obtain ⟨m, hm, rfl⟩ := (lead_iff hr).mp hlead
    exact ⟨m, d, ds ++ behind, rfl, hm, hd⟩

theorem dec_some_iff {cs : List Char} :
    (Radix.dec.unsignedLength? cs).isSome = true ↔ startsNumber cs = true := by
  cases cs with
  | nil => exact iff_of_false (by decide) (by decide)
  | cons c cs =>
    rw [unsignedLength?, lead_dec_eq, Option.bind_some, List.drop_zero, Option.isSome_map,
      digitsLength?, isDigit, startsNumber, List.head?_cons, Option.any_some]
    cases c.isDigit with
    | true => exact iff_of_true rfl rfl
    | false => exact iff_of_false (by simp) (by simp)

theorem exists_unsigned {cs : List Char} (h : startsNumber cs = true) :
    ∃ n, (announced cs).unsignedLength? cs = some n := by
  rw [← Option.isSome_iff_exists]
  by_cases hdec : announced cs = .dec
  · rw [hdec]
    exact dec_some_iff.mpr h
  · exact (announced_iff_some hdec).mp rfl

theorem Unsigned.starts {r : Radix} {u : List Char} (h : r.Unsigned u) :
    startsNumber u = true := by
  obtain ⟨lead, d, ds, rfl, hlead, hd, _⟩ := h
  by_cases hr : r = .dec
  · subst hr
    obtain rfl : lead = [] := hlead
    exact hd
  · obtain ⟨m, _, rfl⟩ := (lead_iff hr).mp hlead
    rfl

theorem unsigned_none {cs : List Char} (h : startsNumber cs = false) (r : Radix) :
    r.unsignedLength? cs = none := by
  cases hn : r.unsignedLength? cs with
  | none => rfl
  | some n =>
    obtain ⟨u, behind, rfl, _, hform, _⟩ := unsigned_eq_some hn
    exact Bool.noConfusion (h.symm.trans (starts_number_append hform.starts behind))

theorem exists_sign (cs : List Char) :
    ∃ sign, (sign = [] ∨ sign = ['-']) ∧ cs = sign ++ withoutSign cs ∧
      ∀ r : Radix, r.literalLength? cs =
        (r.unsignedLength? (withoutSign cs)).map (sign.length + ·) := by
  unfold withoutSign
  split
  · next cs => exact ⟨['-'], .inr rfl, rfl, fun r => rfl⟩
  · next hne =>
    refine ⟨[], .inl rfl, rfl, fun r => ?_⟩
    unfold literalLength?
    split
    · next cs => exact absurd rfl (hne cs)
    · simp

theorem literal_of_starts {cs : List Char} (h : startsNumber cs = true) (r : Radix) :
    r.literalLength? cs = r.unsignedLength? cs := by
  unfold literalLength?
  split
  · cases h
  · rfl

theorem literal_none {cs : List Char} (h : startsNumber (withoutSign cs) = false) (r : Radix) :
    r.literalLength? cs = none := by
  obtain ⟨sign, _, _, hliteral⟩ := exists_sign cs
  rw [hliteral, unsigned_none h]
  rfl

theorem literal_dec_none_iff {cs : List Char} :
    dec.literalLength? cs = none ↔ startsNumber (withoutSign cs) = false := by
  refine ⟨?_, fun h => literal_none h _⟩
  obtain ⟨sign, _, _, hliteral⟩ := exists_sign cs
  rw [hliteral, Option.map_eq_none_iff, ← Bool.not_eq_true, ← dec_some_iff]
  intro h
  rw [h]
  exact Bool.false_ne_true

theorem immediate_none_iff {r : Radix} {cs : List Char} :
    r.immediateLength? ('#' :: cs) = none ↔ r.literalLength? cs = none := by
  rw [immediate_eq, headed_cons, Option.map_eq_none_iff]

theorem not_dec_of_mark {r : Radix} {m : Char} (h : r.isMark m = true) :
    m ≠ '_' ∧ Radix.dec.isDigit m = false := by
  cases r with
  | dec => cases h
  | _ =>
    rcases Bool.or_eq_true_iff.mp h with h | h
    · rw [beq_iff_eq.mp h]
      decide
    · rw [beq_iff_eq.mp h]
      decide

/-- No number of any radix is longer than that of the radix announced. -/
theorem unsigned_longest {r : Radix} {v cs : List Char} (hv : r.Unsigned v) (hfront : v <+: cs)
    {n : Nat} (hn : (announced cs).unsignedLength? cs = some n) : v.length ≤ n := by
  obtain ⟨behind, rfl⟩ := hfront
  obtain ⟨m, hm, hle⟩ := unsigned_append hv behind
  by_cases hsame : announced (v ++ behind) = r
  · rw [hsame, hm] at hn
    obtain rfl := Option.some.inj hn
    exact hle
  · -- Only a decimal number is not announced, and it stops before the letter of the other radix.
    have hdec : r = .dec := Decidable.byContradiction fun hr =>
      hsame ((announced_iff_some hr).mpr (Option.isSome_of_eq_some hm))
    subst hdec
    obtain ⟨a, d, tail, hcs, hmark, _⟩ := (announced_eq_iff hsame).mp rfl
    obtain ⟨lead, c, ds, rfl, hlead, _, hds⟩ := hv
    obtain rfl : lead = [] := hlead
    have hpos := (unsigned_length_bounds hn).1
    cases ds with
    | nil => exact hpos
    | cons b ds =>
      obtain ⟨rfl, _⟩ := List.cons.inj (List.cons.inj hcs).2
      obtain ⟨hgap, hdigit⟩ := not_dec_of_mark hmark
      rcases hds b List.mem_cons_self with heq | hdec
      · exact absurd heq hgap
      · exact Bool.noConfusion (hdigit.symm.trans hdec)

theorem front_of_optional {a : Char} {s t : List Char} (hs : s = [] ∨ s = [a])
    (ht : t = [] ∨ t = [a]) {u v : List Char} (hu : ∃ c tail, u = c :: tail ∧ c ≠ a)
    (hv : ∃ c tail, v = c :: tail ∧ c ≠ a) (h : s ++ u <+: t ++ v) : s = t ∧ u <+: v := by
  obtain ⟨c, u, rfl, hc⟩ := hu
  obtain ⟨d, v, rfl, hd⟩ := hv
  rcases hs with rfl | rfl
  · rcases ht with rfl | rfl
    · exact ⟨rfl, h⟩
    · exact absurd (List.cons_prefix_cons.mp h).1 hc
  · rcases ht with rfl | rfl
    · exact absurd (List.cons_prefix_cons.mp h).1.symm hd
    · exact ⟨rfl, (List.cons_prefix_cons.mp h).2⟩

theorem starts_ne {a : Char} (ha : a.isDigit = false) {u : List Char}
    (hu : startsNumber u = true) : ∃ c tail, u = c :: tail ∧ c ≠ a := by
  obtain ⟨c, tail, rfl, hc⟩ := starts_number_iff.mp hu
  refine ⟨c, tail, rfl, ?_⟩
  rintro rfl
  exact Bool.noConfusion (ha.symm.trans hc)

theorem signed_starts {sign : List Char} (hsign : sign = [] ∨ sign = ['-']) {u : List Char}
    (hu : startsNumber u = true) : ∃ c tail, sign ++ u = c :: tail ∧ c ≠ '#' := by
  rcases hsign with rfl | rfl
  · exact starts_ne rfl hu
  · exact ⟨'-', u, rfl, by decide⟩

/-- A number of the radix stands in front, longer than all others there. No digit of the radix
and no underscore stands behind it. -/
structure Delimited (r : Radix) (u cs : List Char) : Prop where
  numeral : r.Numeral u
  longest : LongestFront (fun v => ∃ q : Radix, q.Numeral v) u cs
  stops : ∀ c ∈ (cs.drop u.length).head?, c ≠ '_' ∧ r.isDigit c = false

section Front

variable {mark sign body : List Char} (hmark : mark = [] ∨ mark = ['#'])
  (hsign : sign = [] ∨ sign = ['-']) {n : Nat}
  (hn : (announced body).unsignedLength? body = some n)

include hmark hsign hn

theorem numeral_longest {r : Radix} {v : List Char} (hv : r.Numeral v)
    (hfront : v <+: mark ++ sign ++ body) : v.length ≤ mark.length + sign.length + n := by
  obtain ⟨u, behind, hbody, _, hform, _⟩ := unsigned_eq_some hn
  have hstarts : startsNumber body = true := by
    rw [hbody]
    exact starts_number_append hform.starts behind
  obtain ⟨mark', sign', body', rfl, hmark', hsign', hform'⟩ := hv
  rw [List.append_assoc, List.append_assoc] at hfront
  obtain ⟨rfl, hsigned⟩ := front_of_optional hmark' hmark (signed_starts hsign' hform'.starts)
    (signed_starts hsign hstarts) hfront
  obtain ⟨rfl, hdigits⟩ := front_of_optional hsign' hsign (starts_ne rfl hform'.starts)
    (starts_ne rfl hstarts) hsigned
  have hle := unsigned_longest hform' hdigits hn
  rw [List.length_append, List.length_append]
  exact Nat.add_le_add_left hle _

/-- With `#` and a sign in front or without, the number of the radix announced is taken. -/
theorem delimited_of_match :
    (announced body).Delimited (mark ++ sign ++ body.take n) (mark ++ sign ++ body) := by
  have hlongest : ∀ v, v <+: mark ++ sign ++ body → (∃ r : Radix, r.Numeral v) →
      v.length ≤ mark.length + sign.length + n := by
    rintro v hfront ⟨r, hv⟩
    exact numeral_longest hmark hsign hn hv hfront
  obtain ⟨u, behind, rfl, rfl, hform, hstop⟩ := unsigned_eq_some hn
  have hnumeral : (announced (u ++ behind)).Numeral (mark ++ sign ++ u) :=
    ⟨mark, sign, u, rfl, hmark, hsign, hform⟩
  rw [← List.append_assoc] at hlongest ⊢
  rw [List.take_left]
  refine ⟨hnumeral, ⟨List.prefix_append _ _, ⟨_, hnumeral⟩, ?longest⟩, ?stops⟩
  case longest =>
    intro v hfront hv
    rw [List.length_append, List.length_append]
    exact hlongest v hfront hv
  case stops =>
    rw [List.drop_left]
    exact hstop

end Front

end Radix

end ArmTokens
