import Mathlib.Data.List.Chain
import ArmTokens.Proofs.Lexer.LayOut
import ArmTokens.Proofs.Lexer.Locality
import ArmTokens.Proofs.Pattern.Greedy

/-!
# Which tokens stand side by side

A token takes all that its pattern can take, so the token behind it does not
begin with a character that the first would have gone on over. Within one mode
this keeps two runs of one kind apart. A token that goes to the end of its line
leaves the root mode as it is, and blanks come next.
-/

set_option autoImplicit false

namespace ArmTokens

namespace Category

def isWord : Category → Bool
  | .keyword | .identifier => true
  | _ => false

def isOperator : Category → Bool
  | .operatorSymbol | .operatorOther => true
  | _ => false

def isBare : Category → Bool
  | .bareHex | .bareBin | .bareDec => true
  | _ => false

def radix? : Category → Option Radix
  | .immediateHex | .bareHex => some .hex
  | .immediateBin | .bareBin => some .bin
  | .immediateDec | .bareDec => some .dec
  | _ => none

def endsLine : Category → Bool
  | .comment | .commentExpectPass | .commentExpectFail | .stringInvalid => true
  | _ => false

/-- The one pattern that makes tokens of the category. A quote of a character and an escape come
from more than one pattern, and an invalid character from none. -/
def pattern? : Category → Option Pattern
  | .keyword | .identifier => some .identifier
  | .operatorSymbol | .operatorOther => some .symbols
  | .bracketCurly | .bracketSquare | .bracketParenthesis => some .bracket
  | .immediateHex => some (.immediate .hex)
  | .immediateBin => some (.immediate .bin)
  | .immediateDec => some (.immediate .dec)
  | .bareHex => some (.bare .hex)
  | .bareBin => some (.bare .bin)
  | .bareDec => some (.bare .dec)
  | .delimiter => some .delimiter
  | .string => some .stringText
  | .stringEscapeInvalid => some .anyEscape
  | .stringInvalid => some .openString
  | .stringQuoteOpen | .stringQuoteClose => some .doubleQuote
  | .charInvalid => some .singleQuote
  | .comment => some .comment
  | .commentExpectPass => some .expectPass
  | .commentExpectFail => some .expectFail
  | .whitespace => some .whitespace
  | .char | .stringEscape | .invalid => none

theorem not_bare_of_pattern {c : Category} (h : c.pattern? = none) : c.isBare = false := by
  cases c <;> first | rfl | cases h

theorem pattern_of_word {c : Category} (h : c.isWord = true) : c.pattern? = some .identifier := by
  cases c <;> first | rfl | cases h

theorem pattern_of_operator {c : Category} (h : c.isOperator = true) :
    c.pattern? = some .symbols := by
  cases c <;> first | rfl | cases h

theorem pattern_of_radix {c : Category} {r : Radix} (h : c.radix? = some r) :
    ∃ p, c.pattern? = some p ∧ p.goesOn = r.isDigitOrGap := by
  cases c <;> first | (obtain rfl := Option.some.inj h; exact ⟨_, rfl, rfl⟩) | cases h

theorem pattern_of_bare {c : Category} (h : c.isBare = true) :
    ∃ r, c.pattern? = some (.bare r) ∧ c.radix? = some r := by
  cases c <;> first | exact ⟨_, rfl, rfl⟩ | cases h

theorem bare_dec_of_radix {c : Category} (h : c.isBare = true) (hr : c.radix? = some .dec) :
    c = .bareDec := by
  revert h hr
  cases c <;> decide

theorem pattern_of_ends_line {c : Category} (h : c.endsLine = true) :
    ∃ p, c.pattern? = some p ∧ ∀ d, p.goesOn d = !isLineEnd d := by
  cases c <;> first | exact ⟨_, rfl, fun _ => rfl⟩ | cases h

end Category

def Action.cutsUp : Action → Bool
  | .quoted _ _ => true
  | _ => false

theorem text_of_mem_lexemes {a : Action} (ha : a.cutsUp = false) {text : List Char} {l : Lexeme}
    (hl : l ∈ a.lexemes text) : l.text = text := by
  cases a with
  | quoted quote body => cases ha
  | _ => rw [List.mem_singleton.mp hl]

theorem head_lexeme {a : Action} {text : List Char} {l : Lexeme}
    (hl : l ∈ (a.lexemes text).head?) : l.text.head? = text.head? := by
  cases a with
  | quoted quote body =>
    obtain rfl := Option.some.inj hl
    cases text <;> rfl
  | _ =>
    obtain rfl := Option.some.inj hl
    rfl

theorem head_lexemes_append (a : Action) (text : List Char) (ls : List Lexeme) :
    (a.lexemes text ++ ls).head? = (a.lexemes text).head? :=
  List.head?_append_of_ne_nil _ (List.ne_nil_of_length_pos (a.length_lexemes_pos text))

theorem head_take_match (mode : Mode) (cs : List Char) :
    (cs.take (matchAt mode cs).length).head? = cs.head? := by
  have hpos := match_at_pos mode cs
  rw [List.head?_take, if_neg (by omega)]

theorem rule_of_category {mode : Mode} {cs : List Char} {l : Lexeme}
    (hl : l ∈ (matchAt mode cs).action.lexemes (cs.take (matchAt mode cs).length)) {p : Pattern}
    (hp : l.category.pattern? = some p) :
    ∃ r ∈ mode.rules, r.pattern = p ∧ p.matchLength? cs = some (matchAt mode cs).length ∧
      (matchAt mode cs).action = r.action ∧ l.category ∈ r.action.categories ∧
      l.text = cs.take (matchAt mode cs).length := by
  have hall : ∀ mode : Mode, ∀ r ∈ mode.rules, ∀ c ∈ r.action.categories,
      c.pattern? = none ∨ (c.pattern? = some r.pattern ∧ r.action.cutsUp = false) := by
    intro mode
    cases mode <;> decide
  have hcat := category_mem hl
  rcases match_at_cases mode cs with ⟨r, hr, hn, hact⟩ | ⟨_, hm⟩
  · rw [hact] at hcat hl
    rcases hall mode r hr _ hcat with hnone | ⟨hpattern, hwhole⟩
    · cases hp.symm.trans hnone
    · obtain rfl := Option.some.inj (hpattern.symm.trans hp)
      exact ⟨r, hr, rfl, hn, hact, hcat, text_of_mem_lexemes hwhole hl⟩
  · rw [hm] at hcat
    obtain hinvalid := List.mem_singleton.mp hcat
    rw [hinvalid] at hp
    cases hp

theorem match_root_minus (cs : List Char) : (matchAt .root ('-' :: cs)).action = .symbols := by
  -- Words, blanks and brackets are tried before symbols.
  have hbefore : firstMatch? (Mode.root.rules.take 3) ('-' :: cs) = none := rfl
  have hrun : runLength? isSymbol ('-' :: cs) ≠ none := by
    rw [ne_eq, run_none_iff]
    decide
  obtain ⟨n, hn⟩ := Option.ne_none_iff_exists'.mp hrun
  rw [match_at_of_rule (r := ⟨.symbols, .symbols⟩) hbefore rfl hn]

theorem match_root_line_end {c : Char} (hc : isLineEnd c = true) (cs : List Char) :
    (matchAt .root (c :: cs)).action = .emit .whitespace := by
  rw [is_line_end_iff] at hc
  have hbefore : firstMatch? (Mode.root.rules.take 1) (c :: cs) = none := by
    rcases hc with rfl | rfl <;> rfl
  have hrun : runLength? isBlank (c :: cs) ≠ none := by
    rw [ne_eq, run_none_iff]
    rcases hc with rfl | rfl <;> decide
  obtain ⟨n, hn⟩ := Option.ne_none_iff_exists'.mp hrun
  rw [match_at_of_rule (r := ⟨.whitespace, .emit .whitespace⟩) hbefore rfl hn]

def Lexeme.BeginsWell (l : Lexeme) : Prop :=
  ∃ c ∈ l.text.head?, (∀ p, l.category.pattern? = some p → p.begins c = true) ∧
    (l.category.isBare = true → c ≠ '-')

/-- The second lexeme does not begin with what the first would have gone on over. -/
def Lexeme.StopsBefore (l m : Lexeme) : Prop :=
  (∀ p, l.category.pattern? = some p → ∀ c ∈ m.text.head?, p.goesOn c = false) ∧
    (l.category.endsLine = true → m.category = .whitespace)

theorem Lexeme.StopsBefore.of_nothing {l m : Lexeme}
    (h : l.category.pattern? = none ∧ l.category.endsLine = false) : l.StopsBefore m := by
  constructor
  · intro p hp
    cases h.1.symm.trans hp
  · intro hend
    cases h.2.symm.trans hend

theorem begins_well (mode : Mode) (cs : List Char) (hcs : cs ≠ []) (l : Lexeme)
    (hl : l ∈ (matchAt mode cs).action.lexemes (cs.take (matchAt mode cs).length)) :
    l.BeginsWell := by
  have hbare : ∀ mode : Mode, ∀ r ∈ mode.rules, ∀ c ∈ r.action.categories, c.isBare = true →
      mode = .root ∧ r.action ≠ .symbols := by
    intro mode
    cases mode <;> decide
  obtain ⟨c, tail, htext⟩ := List.exists_cons_of_ne_nil (lexeme_text_ne_nil hcs hl)
  refine ⟨c, by rw [htext]; rfl, ?_⟩
  cases hp : l.category.pattern? with
  | none =>
    refine ⟨nofun, fun hnumber => ?_⟩
    rw [Category.not_bare_of_pattern hp] at hnumber
    cases hnumber
  | some p =>
    obtain ⟨r, hr, rfl, hn, hact, hcat, hwhole⟩ := rule_of_category hl hp
    have hhead : cs.head? = some c := by
      rw [← head_take_match mode cs, ← hwhole, htext]
      rfl
    constructor
    · rintro _ ⟨⟩
      obtain ⟨d, hd, hbegins⟩ := r.pattern.begins_in cs _ hn
      obtain rfl := Option.some.inj (hhead.symm.trans hd)
      exact hbegins
    · rintro hnumber rfl
      obtain ⟨rfl, hsymbols⟩ := hbare mode r hr _ hcat hnumber
      obtain ⟨cs, rfl⟩ := List.head?_eq_some_iff.mp hhead
      exact hsymbols (hact.symm.trans (match_root_minus cs))

theorem stops_before {s : ModeStack} (hs : s.Shallow) {cs : List Char} {m m' : Match}
    (hm : matchAt s.current cs = m) (hrest : cs.drop m.length ≠ [])
    (hm' : matchAt (m.action.modes s).current (cs.drop m.length) = m') {l l' : Lexeme}
    (hl : l ∈ m.action.lexemes (cs.take m.length))
    (hl' : l' ∈ (m'.action.lexemes ((cs.drop m.length).take m'.length)).head?) :
    l.StopsBefore l' := by
  have hends : ∀ mode : Mode, ∀ r ∈ mode.rules, ∀ c ∈ r.action.categories, c.endsLine = true →
      mode = .root ∧ r.action = .emit c := by
    intro mode
    cases mode <;> decide
  subst hm hm'
  obtain ⟨c, tail, hdrop⟩ := List.exists_cons_of_ne_nil hrest
  have hhead : l'.text.head? = some c := by
    rw [head_lexeme hl', head_take_match, hdrop]
    rfl
  have hstops : ∀ p, l.category.pattern? = some p → p.goesOn c = false := by
    intro p hp
    obtain ⟨r, _, rfl, hn, _⟩ := rule_of_category hl hp
    exact r.pattern.greedy cs _ hn c (by rw [hdrop]; rfl)
  constructor
  · intro p hp d hd
    obtain rfl := Option.some.inj (hhead.symm.trans hd)
    exact hstops p hp
  · intro hend
    obtain ⟨p, hp, hgoes⟩ := Category.pattern_of_ends_line hend
    obtain ⟨r, hr, _, _, hact, hcat, _⟩ := rule_of_category hl hp
    obtain ⟨hroot, hemit⟩ := hends _ r hr _ hcat hend
    -- The stack is what it was, so the line end is matched in the root mode.
    obtain rfl := hs.eq_base hroot
    have hline : isLineEnd c = true := by
      have hstop := hstops p hp
      rwa [hgoes, Bool.not_eq_false'] at hstop
    rw [hact, hemit, hdrop] at hl'
    rw [show (Action.emit l.category).modes .base = .base from rfl, ModeStack.current_base,
      match_root_line_end hline] at hl'
    obtain rfl := Option.some.inj hl'
    rfl

/-- Side by side in one match there are only the quotes of a character and what is between them. -/
theorem stops_within {mode : Mode} {cs : List Char} :
    ((matchAt mode cs).action.lexemes (cs.take (matchAt mode cs).length)).IsChain
      Lexeme.StopsBefore := by
  have hquoted : ∀ mode : Mode, ∀ r ∈ mode.rules, r.action.cutsUp = true →
      ∀ c ∈ r.action.categories, c.pattern? = none ∧ c.endsLine = false := by
    intro mode
    cases mode <;> decide
  rcases match_at_cases mode cs with ⟨r, hr, _, hact⟩ | ⟨_, hm⟩
  · rw [hact]
    have hnothing := hquoted mode r hr
    cases ha : r.action with
    | quoted quote body =>
      rw [ha] at hnothing
      have hopen : ∀ text m, Lexeme.StopsBefore ⟨text, quote⟩ m := fun _ _ =>
        Lexeme.StopsBefore.of_nothing (hnothing rfl quote (by simp [Action.categories]))
      have hbody : ∀ text m, Lexeme.StopsBefore ⟨text, body⟩ m := fun _ _ =>
        Lexeme.StopsBefore.of_nothing (hnothing rfl body (by simp [Action.categories]))
      exact .cons_cons (hopen _ _) (.cons_cons (hbody _ _) (.singleton _))
    | _ => exact List.isChain_singleton _
  · rw [hm]
    exact List.isChain_singleton _

theorem Scans.stops_before {s s' : ModeStack} {cs rest : List Char} {ls : List Lexeme}
    (h : Scans s cs ls s' rest) (hs : s.Shallow) : ls.IsChain Lexeme.StopsBefore := by
  induction h with
  | done => exact List.isChain_nil
  | @step s s' cs rest ls m hne hm htail ih =>
    rw [List.isChain_append]
    refine ⟨?_, ih (hm ▸ hs.step cs), ?_⟩
    · rw [← hm]
      exact stops_within
    · intro l hl l' hl'
      cases htail with
      | done => cases hl'
      | @step _ _ _ _ ls' m' hne' hm' _ =>
        rw [head_lexemes_append] at hl'
        exact ArmTokens.stops_before hs hm hne' hm' (List.mem_of_getLast? hl) hl'

theorem identifier_part_of_start {c : Char} (h : isIdentifierStart c = true) :
    isIdentifierPart c = true := by
  simp only [isIdentifierStart, isIdentifierPart, Char.isAlphanum, Bool.or_eq_true] at h ⊢
  tauto

theorem identifier_part_of_digit {c : Char} (h : c.isDigit = true) :
    isIdentifierPart c = true := by
  simp [isIdentifierPart, Char.isAlphanum, h]

theorem digit_of_first {r : Radix} {c : Char} (h : r.isFirst c = true) : c.isDigit = true := by
  cases r with
  | dec => exact h
  | _ =>
    obtain rfl := beq_iff_eq.mp h
    rfl

theorem digit_or_gap_of_digit {r : Radix} (hr : r ≠ .bin) {c : Char} (h : c.isDigit = true) :
    r.isDigitOrGap c = true := by
  cases r with
  | bin => exact absurd rfl hr
  | hex => simp [Radix.isDigitOrGap, Radix.isDigit, isHexDigit, h]
  | dec => simp [Radix.isDigitOrGap, Radix.isDigit, h]

theorem first_behind_binary {r : Radix} {c : Char} (hfirst : r.isFirst c = true)
    (hstop : Radix.bin.isDigitOrGap c = false) : r = .dec ∧ '2' ≤ c ∧ c ≤ '9' := by
  simp only [Radix.isDigitOrGap, Radix.isDigit, Bool.or_eq_false_iff, beq_eq_false_iff_ne] at hstop
  obtain ⟨_, hzero, hone⟩ := hstop
  cases r with
  | dec =>
    simp only [Radix.isFirst, Char.isDigit, Bool.and_eq_true, decide_eq_true_eq, ge_iff_le,
      UInt32.le_iff_toNat_le] at hfirst
    have hzero : c.val.toNat ≠ 48 := fun h => hzero (Char.toNat_inj.mp h)
    have hone : c.val.toNat ≠ 49 := fun h => hone (Char.toNat_inj.mp h)
    have hlow : ('0' : Char).val.toNat = 48 := rfl
    have htwo : ('2' : Char).val.toNat = 50 := rfl
    simp only [Char.le_def, UInt32.le_iff_toNat_le, true_and]
    omega
  | _ => exact absurd (beq_iff_eq.mp hfirst) hzero

section SideBySide

variable {l m : Lexeme} (hm : m.BeginsWell) (h : l.StopsBefore m)

include hm

theorem Lexeme.BeginsWell.first_digit (hbare : m.category.isBare = true) :
    ∃ r, m.category.radix? = some r ∧ ∃ c ∈ m.text.head?, r.isFirst c = true := by
  obtain ⟨c, hc, hbegins, hsign⟩ := hm
  obtain ⟨r, hp, hr⟩ := Category.pattern_of_bare hbare
  refine ⟨r, hr, c, hc, ?_⟩
  have hfirst := hbegins _ hp
  simp only [Pattern.begins, Bool.or_eq_true, beq_iff_eq] at hfirst
  exact hfirst.resolve_left (hsign hbare)

include h

theorem not_one_run {p : Pattern} (hgo : ∀ c, p.begins c = true → p.goesOn c = true) :
    ¬(l.category.pattern? = some p ∧ m.category.pattern? = some p) := by
  rintro ⟨hl, hp⟩
  obtain ⟨c, hc, hbegins, _⟩ := hm
  exact Bool.false_ne_true ((h.1 p hl c hc).symm.trans (hgo c (hbegins p hp)))

theorem not_bare_behind {p : Pattern} (hl : l.category.pattern? = some p)
    (hgo : ∀ c, c.isDigit = true → p.goesOn c = true) : m.category.isBare = false := by
  by_contra hbare
  obtain ⟨r, _, c, hc, hfirst⟩ := hm.first_digit (Bool.not_eq_false _ ▸ hbare)
  exact Bool.false_ne_true ((h.1 p hl c hc).symm.trans (hgo c (digit_of_first hfirst)))

end SideBySide

/-- What two tokens side by side can be. -/
structure Neighbours (t u : Token) : Prop where
  words : ¬(t.category.isWord = true ∧ u.category.isWord = true)
  blanks : ¬(t.category = .whitespace ∧ u.category = .whitespace)
  operators : ¬(t.category.isOperator = true ∧ u.category.isOperator = true)
  strings : ¬(t.category = .string ∧ u.category = .string)
  word_number : t.category.isWord = true → u.category.isBare = false
  number : t.category.radix? = some .hex ∨ t.category.radix? = some .dec → u.category.isBare = false
  binary : t.category.radix? = some .bin → u.category.isBare = true →
    u.category = .bareDec ∧ ∃ c ∈ u.text.toList.head?, '2' ≤ c ∧ c ≤ '9'
  line : t.category.endsLine = true →
    u.category = .whitespace ∧ ∃ c ∈ u.text.toList.head?, c = '\n' ∨ c = '\r'

theorem neighbours_token {l m : Lexeme} (hm : m.BeginsWell) (h : l.StopsBefore m) (p q : Nat) :
    Neighbours (l.token p) (m.token q) := by
  have htext : (m.token q).text.toList = m.text := String.toList_ofList
  constructor
  case words =>
    rintro ⟨hl, hu⟩
    exact not_one_run hm h (p := .identifier) (fun _ => identifier_part_of_start)
      ⟨Category.pattern_of_word hl, Category.pattern_of_word hu⟩
  case blanks =>
    rintro ⟨hl, hu⟩
    exact not_one_run hm h (p := .whitespace) (fun _ => id)
      ⟨congrArg Category.pattern? hl, congrArg Category.pattern? hu⟩
  case operators =>
    rintro ⟨hl, hu⟩
    exact not_one_run hm h (p := .symbols) (fun _ => id)
      ⟨Category.pattern_of_operator hl, Category.pattern_of_operator hu⟩
  case strings =>
    rintro ⟨hl, hu⟩
    exact not_one_run hm h (p := .stringText) (fun _ => id)
      ⟨congrArg Category.pattern? hl, congrArg Category.pattern? hu⟩
  case word_number =>
    intro hl
    exact not_bare_behind hm h (Category.pattern_of_word hl) fun _ => identifier_part_of_digit
  case number =>
    intro hl
    have hwide : ∃ r, l.category.radix? = some r ∧ r ≠ .bin := by
      rcases hl with hl | hl <;> exact ⟨_, hl, nofun⟩
    obtain ⟨r, hr, hbin⟩ := hwide
    obtain ⟨p, hp, hgoes⟩ := Category.pattern_of_radix hr
    exact not_bare_behind hm h hp fun _ hdigit => hgoes ▸ digit_or_gap_of_digit hbin hdigit
  case binary =>
    intro hl hbare
    obtain ⟨p, hp, hgoes⟩ := Category.pattern_of_radix hl
    obtain ⟨r, hr, c, hc, hfirst⟩ := hm.first_digit hbare
    obtain ⟨rfl, hlow, hhigh⟩ := first_behind_binary hfirst (hgoes ▸ h.1 p hp c hc)
    rw [htext]
    exact ⟨Category.bare_dec_of_radix hbare hr, c, hc, hlow, hhigh⟩
  case line =>
    intro hend
    obtain ⟨p, hp, hgoes⟩ := Category.pattern_of_ends_line hend
    obtain ⟨c, hc, _⟩ := hm
    have hline := h.1 p hp c hc
    rw [hgoes, Bool.not_eq_false', is_line_end_iff] at hline
    rw [htext]
    exact ⟨h.2 hend, c, hc, hline⟩

theorem neighbours_lay_out {ls : List Lexeme} (hbegins : ∀ l ∈ ls, l.BeginsWell)
    (h : ls.IsChain Lexeme.StopsBefore) (p : Nat) :
    (Lexeme.layOut p ls).IsChain Neighbours := by
  induction ls generalizing p with
  | nil => exact .nil
  | cons l ls ih =>
    cases ls with
    | nil => exact .singleton _
    | cons m ls =>
      obtain ⟨hstops, htail⟩ := List.isChain_cons_cons.mp h
      exact .cons_cons (neighbours_token (hbegins m (by simp)) hstops _ _)
        (ih (fun l hl => hbegins l (List.mem_cons_of_mem _ hl)) htail _)

/-- Every two tokens side by side are told apart: one run is not two tokens, a number does not
begin inside another number or a word, and what goes to the end of a line is followed by it. -/
theorem lex_neighbours (text : String) : (lex text).IsChain Neighbours := by
  obtain ⟨ls, s, hscans⟩ := Scans.exists_end .base text.toList
  rw [lex_of_scans hscans]
  exact neighbours_lay_out (hscans.forall_lexeme begins_well)
    (hscans.stops_before (.inl rfl)) 0

/-- A digit that is not binary begins a number of its own. -/
example : ((Lexer.ofString "0b12").take 2).1.map (fun t => (t.text, t.category)) =
    [("0b1", .bareBin), ("2", .bareDec)] := by
  decide

end ArmTokens
