import ArmTokens.Proofs.Lexer.Fallback
import ArmTokens.Proofs.Lexer.Munch

/-!
# Number tokens

The rules for the radixes are tried in turn, those behind a `#` before the
others. The radix that the digits announce is the one whose rule decides, and
its match is the longest number there is. A sign in front of a bare number is a
symbol, so a sign is part of a number only behind `#`.
-/

set_option autoImplicit false

namespace ArmTokens

namespace Radix

def place : Radix → Nat
  | .hex => 0
  | .bin => 1
  | .dec => 2

def immediateCategory : Radix → Category
  | .hex => .immediateHex
  | .bin => .immediateBin
  | .dec => .immediateDec

def bareCategory : Radix → Category
  | .hex => .bareHex
  | .bin => .bareBin
  | .dec => .bareDec

end Radix

open Radix

/-- In a row of rules for every radix the one of the radix announced decides. -/
theorem match_of_announced {k lead : Nat} {p : Radix → Pattern} {c : Radix → Category}
    {cs body : List Char}
    (hrules : ∀ r : Radix, Mode.root.rules[k + r.place]? = some ⟨p r, .emit (c r)⟩)
    (hbefore : firstMatch? (Mode.root.rules.take k) cs = none)
    (hp : ∀ r : Radix, (p r).matchLength? cs = (r.unsignedLength? body).map (lead + ·)) {n : Nat}
    (hn : (announced body).unsignedLength? body = some n) :
    matchAt .root cs = ⟨lead + n, .emit (c (announced body))⟩ := by
  -- Only the decimal rule, the last of the row, matches without its radix being announced.
  have hskip : ∀ r : Radix, r ≠ .dec → announced body ≠ r → (p r).matchLength? cs = none := by
    intro r hr hother
    rw [hp, Option.map_eq_none_iff, ← Option.not_isSome_iff_eq_none, ← announced_iff_some hr]
    exact hother
  have hsome : (p (announced body)).matchLength? cs = some (lead + n) := by
    rw [hp, hn]
    rfl
  cases hr : announced body with
  | hex =>
    rw [hr] at hsome
    exact match_at_of_rule hbefore (hrules .hex) hsome
  | bin =>
    rw [hr] at hsome hskip
    have hhex := first_match_take_succ hbefore (hrules .hex) (hskip .hex nofun nofun)
    exact match_at_of_rule hhex (hrules .bin) hsome
  | dec =>
    rw [hr] at hsome hskip
    have hhex := first_match_take_succ hbefore (hrules .hex) (hskip .hex nofun nofun)
    have hbin := first_match_take_succ hhex (hrules .bin) (hskip .bin nofun nofun)
    exact match_at_of_rule hbin (hrules .dec) hsome

theorem match_bare {cs : List Char} (h : startsNumber cs = true) {n : Nat}
    (hn : (announced cs).unsignedLength? cs = some n) :
    matchAt .root cs = ⟨0 + n, .emit (announced cs).bareCategory⟩ := by
  -- Words, blanks, brackets, symbols and the numbers behind a mark do not begin with a digit.
  have hbefore : firstMatch? (Mode.root.rules.take 7) cs = none := by
    obtain ⟨c, tail, rfl, hdigit⟩ := starts_number_iff.mp h
    exact first_match_of_opens_none (of_ascii (P := fun c => c.isDigit = true →
      opensNone (rootRules.take 7) c = true) (by decide) (ascii_only_is_digit c hdigit) hdigit) tail
  apply match_of_announced (p := .bare) _ hbefore _ hn
  · intro r
    cases r <;> rfl
  · intro r
    rw [Pattern.matchLength?, literal_of_starts h]
    simp

theorem match_immediate {cs sign body : List Char}
    (hliteral : ∀ r : Radix, r.literalLength? cs =
      (r.unsignedLength? body).map (sign.length + ·)) {n : Nat}
    (hn : (announced body).unsignedLength? body = some n) :
    matchAt .root ('#' :: cs) =
      ⟨1 + sign.length + n, .emit (announced body).immediateCategory⟩ := by
  have hbefore : firstMatch? (Mode.root.rules.take 4) ('#' :: cs) = none :=
    first_match_of_opens_none (by decide) _
  apply match_of_announced (p := .immediate) _ hbefore _ hn
  · intro r
    cases r <;> rfl
  · intro r
    rw [Pattern.matchLength?, immediate_eq, headed_cons, hliteral, Option.map_map]
    congr 1
    funext m
    exact (Nat.add_assoc 1 sign.length m).symm

namespace MatchStarts

variable {text : String} {lx : Lexer} (h : MatchStarts text .root lx)

include h

theorem makes_number {mark sign body : List Char} (hmark : mark = [] ∨ mark = ['#'])
    (hsign : sign = [] ∨ sign = ['-']) (hrest : lx.rest = mark ++ sign ++ body) {n : Nat}
    (hn : (announced body).unsignedLength? body = some n) {c : Category}
    (hm : matchAt .root lx.rest = ⟨mark.length + sign.length + n, .emit c⟩) :
    lx.Makes [⟨mark ++ sign ++ body.take n, c⟩] ∧
      (announced body).Delimited (mark ++ sign ++ body.take n) lx.rest := by
  constructor
  · rw [h.makes_iff, hm, hrest, ← List.length_append, List.take_length_add_append]
    rfl
  · rw [hrest]
    exact delimited_of_match hmark hsign hn

theorem makes_bare (hstarts : startsNumber lx.rest = true) :
    ∃ u, lx.Makes [⟨u, (announced lx.rest).bareCategory⟩] ∧
      (announced lx.rest).Delimited u lx.rest := by
  obtain ⟨n, hn⟩ := exists_unsigned hstarts
  exact ⟨_, h.makes_number (.inl rfl) (.inl rfl) rfl hn (match_bare hstarts hn)⟩

theorem makes_immediate {cs : List Char} (hrest : lx.rest = '#' :: cs)
    (hstarts : startsNumber (withoutSign cs) = true) :
    ∃ u, lx.Makes [⟨u, (announced (withoutSign cs)).immediateCategory⟩] ∧
      (announced (withoutSign cs)).Delimited u lx.rest := by
  obtain ⟨n, hn⟩ := exists_unsigned hstarts
  obtain ⟨sign, hsign, hcs, hliteral⟩ := exists_sign cs
  have hsplit : lx.rest = ['#'] ++ sign ++ withoutSign cs := hrest.trans (congrArg _ hcs)
  refine ⟨_, h.makes_number (.inr rfl) hsign hsplit hn ?_⟩
  rw [hrest, match_immediate hliteral hn]
  rfl

end MatchStarts

def NumberAhead (cs : List Char) : Prop :=
  startsNumber cs = true ∨ ∃ tail, cs = '#' :: tail ∧ startsNumber (withoutSign tail) = true

theorem pattern_of_number {c : Category} (h : c.isNumber = true) :
    ∃ r : Radix, c.pattern? = some (.immediate r) ∨
      (c.pattern? = some (.bare r) ∧ c.isBare = true) := by
  cases c <;> first | exact ⟨_, .inl rfl⟩ | exact ⟨_, .inr ⟨rfl, rfl⟩⟩ | cases h

section Lexemes

variable {mode : Mode} {cs : List Char} (hcs : cs ≠ []) {l : Lexeme}
  (hl : l ∈ (matchAt mode cs).action.lexemes (cs.take (matchAt mode cs).length))

include hcs hl

theorem unsigned_of_bare (hbare : l.category.isBare = true) :
    ∃ r : Radix, startsNumber cs = true ∧
      r.unsignedLength? cs = some (matchAt mode cs).length ∧
      l.text = cs.take (matchAt mode cs).length := by
  obtain ⟨r, hp, _⟩ := Category.pattern_of_bare hbare
  obtain ⟨_, _, _, hn, _, _, htext⟩ := rule_of_category hl hp
  obtain ⟨c, hc, _, hminus⟩ := begins_well mode cs hcs l hl
  obtain ⟨d, hd, hopens⟩ := (Pattern.bare r).opens_in cs _ hn
  rw [htext, head_take_match] at hc
  obtain rfl := Option.some.inj (hc.symm.trans hd)
  obtain ⟨tail, rfl⟩ := List.head?_eq_some_iff.mp hc
  have hfirst : r.isFirst c = true := by
    simp only [Pattern.opens, Bool.or_eq_true, beq_iff_eq] at hopens
    exact hopens.resolve_left (hminus hbare)
  have hstarts : startsNumber (c :: tail) = true := digit_of_first hfirst
  rw [Pattern.matchLength?, literal_of_starts hstarts] at hn
  exact ⟨r, hstarts, hn, htext⟩

theorem number_ahead (hnumber : l.category.isNumber = true) :
    mode = .root ∧ NumberAhead cs := by
  have hall : ∀ mode : Mode, ∀ r ∈ mode.rules, ∀ c ∈ r.action.categories, c.isNumber = true →
      mode = .root := by
    intro mode
    cases mode <;> decide
  obtain ⟨r, hp⟩ := pattern_of_number hnumber
  rcases hp with hp | ⟨hp, hbare⟩
  · obtain ⟨rule, hrule, _, hn, _, hcategory, _⟩ := rule_of_category hl hp
    refine ⟨hall mode rule hrule _ hcategory hnumber, .inr ?_⟩
    obtain ⟨c, hc, hopens⟩ := (Pattern.immediate r).opens_in cs _ hn
    obtain rfl := beq_iff_eq.mp hopens
    obtain ⟨tail, rfl⟩ := List.head?_eq_some_iff.mp hc
    refine ⟨tail, rfl, ?_⟩
    rw [← Bool.not_eq_false]
    intro hnone
    have himmediate := immediate_none_iff.mpr (literal_none hnone r)
    cases himmediate.symm.trans hn
  · obtain ⟨rule, hrule, _, _, _, hcategory, _⟩ := rule_of_category hl hp
    obtain ⟨_, hstarts, _⟩ := unsigned_of_bare hcs hl hbare
    exact ⟨hall mode rule hrule _ hcategory hnumber, .inl hstarts⟩

theorem minus_not_mem_bare (hbare : l.category.isBare = true) : '-' ∉ l.text := by
  obtain ⟨r, _, hn, htext⟩ := unsigned_of_bare hcs hl hbare
  have havoids : Avoids '-' r.unsignedLength? :=
    avoids_unsigned (by cases r <;> rfl) (by cases r <;> rfl)
  rw [htext]
  exact havoids _ _ hn

end Lexemes

theorem MatchStarts.makes_ahead {text : String} {lx : Lexer} (h : MatchStarts text .root lx)
    (hahead : NumberAhead lx.rest) : ∃ u c, lx.Makes [⟨u, c⟩] := by
  rcases hahead with hstarts | ⟨tail, hrest, hstarts⟩
  · obtain ⟨u, hmakes, _⟩ := h.makes_bare hstarts
    exact ⟨u, _, hmakes⟩
  · obtain ⟨u, hmakes, _⟩ := h.makes_immediate hrest hstarts
    exact ⟨u, _, hmakes⟩

/-- Numbers are told apart by the radix that their digits announce and go as far as a number can
go. They begin with a digit or behind a mark, and only there. -/
theorem numbers_delimited (text : String) :
    (∀ lx, MatchStarts text .root lx → startsNumber lx.rest = true →
      ∃ u, lx.Makes [⟨u, (announced lx.rest).bareCategory⟩] ∧
        (announced lx.rest).Delimited u lx.rest) ∧
    (∀ lx cs, MatchStarts text .root lx → lx.rest = '#' :: cs →
      (startsNumber (withoutSign cs) = true →
        ∃ u, lx.Makes [⟨u, (announced (withoutSign cs)).immediateCategory⟩] ∧
          (announced (withoutSign cs)).Delimited u lx.rest) ∧
      (startsNumber (withoutSign cs) = false → lx.Makes [⟨['#'], .invalid⟩])) ∧
    (∀ t ∈ lex text, t.category.isNumber = true →
      ∃ lx u, MatchStarts text .root lx ∧ NumberAhead lx.rest ∧ lx.Makes [⟨u, t.category⟩] ∧
        t = Lexeme.token ⟨u, t.category⟩ lx.position) ∧
    ∀ t ∈ lex text, t.category.isBare = true → '-' ∉ t.text.toList := by
  refine ⟨fun lx hstarts => hstarts.makes_bare, ?mark, ?only, ?unsigned⟩
  case mark =>
    intro lx cs hstarts hrest
    refine ⟨hstarts.makes_immediate hrest, fun hnone => ?_⟩
    apply hstarts.makes_invalid _ hrest
    rw [hrest]
    exact root_none_of_gap (.mark hnone)
  case only =>
    intro t ht hnumber
    obtain ⟨mode, lx, l, hstarts, ht, hl, hcategory, _⟩ := token_of_match ht
    rw [hcategory] at hnumber
    obtain ⟨rfl, hahead⟩ := number_ahead hstarts.text_left hl hnumber
    obtain ⟨u, c, hmakes⟩ := hstarts.makes_ahead hahead
    rw [hstarts.matched_eq hmakes] at ht
    obtain rfl := List.mem_singleton.mp ht
    exact ⟨lx, u, hstarts, hahead, hmakes, rfl⟩
  case unsigned =>
    intro t ht hbare
    obtain ⟨mode, lx, l, hstarts, _, hl, hcategory, htext⟩ := token_of_match ht
    rw [hcategory] at hbare
    rw [htext, String.toList_ofList]
    exact minus_not_mem_bare hstarts.text_left hl hbare

theorem numbers_delimited_signed :
    (∃ u, (Lexer.ofString "#-0x1F_g").Makes [⟨u, .immediateHex⟩] ∧
      Radix.hex.Delimited u ['#', '-', '0', 'x', '1', 'F', '_', 'g']) ∧
    (∃ u, (Lexer.ofString "0b12").Makes [⟨u, .bareBin⟩] ∧
      Radix.bin.Delimited u ['0', 'b', '1', '2']) ∧
    (Lexer.ofString "#-x").Makes [⟨['#'], .invalid⟩] ∧
    (∃ lx u, MatchStarts "0b12" .root lx ∧ NumberAhead lx.rest ∧ lx.Makes [⟨u, .bareBin⟩] ∧
      Lexeme.token ⟨['0', 'b', '1'], .bareBin⟩ 0 = Lexeme.token ⟨u, .bareBin⟩ lx.position) ∧
    '-' ∉ (Lexeme.token ⟨['0', 'b', '1'], .bareBin⟩ 0).text.toList := by
  have hsigned : MatchStarts "#-0x1F_g" .root (Lexer.ofString "#-0x1F_g") :=
    match_starts_first (by decide)
  have hbare : MatchStarts "0b12" .root (Lexer.ofString "0b12") := match_starts_first (by decide)
  have hmark : MatchStarts "#-x" .root (Lexer.ofString "#-x") := match_starts_first (by decide)
  have hmakes : (Lexer.ofString "0b12").Makes [⟨['0', 'b', '1'], .bareBin⟩] :=
    hbare.makes_iff.mpr (by decide)
  have hmem := hbare.mem_lex hmakes List.mem_cons_self
  exact ⟨((numbers_delimited _).2.1 _ _ hsigned rfl).1 rfl, (numbers_delimited _).1 _ hbare rfl,
    ((numbers_delimited _).2.1 _ _ hmark rfl).2 rfl, (numbers_delimited _).2.2.1 _ hmem rfl,
    (numbers_delimited _).2.2.2 _ hmem rfl⟩

end ArmTokens
