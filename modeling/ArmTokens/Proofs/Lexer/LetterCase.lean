import ArmTokens.Proofs.Lexer.Locality
import ArmTokens.Proofs.Pattern.LetterCase

/-!
# Letter case and tokens

On two texts that are alike the lexer takes the same steps, so the tokens have
the same spans. They have the same categories too: the vocabulary is searched
in upper case, and symbols and brackets are no letters.
-/

set_option autoImplicit false

namespace ArmTokens

def Token.outline (t : Token) : Span × Category := (t.span, t.category)

def Lexeme.outline (l : Lexeme) : Nat × Category := (byteLength l.text, l.category)

theorem match_at_alike {cs ds : List Char} (h : Alike cs ds) (mode : Mode) :
    matchAt mode ds = matchAt mode cs := by
  apply match_at_eq
  · intro r _ hn
    rw [← r.pattern.case_blind cs ds h, hn]
  · intro r _ hn
    rw [← r.pattern.case_blind cs ds h, hn]

/-! ## What a text is called -/

theorem folds_case_byte_length : FoldsCase byteLength := by
  have hsize : Caseless Char.utf8Size := caseless_of_letters (by decide)
  intro cs
  induction cs with
  | nil => rfl
  | cons c cs ih => rw [List.map_cons, byteLength, byteLength, hsize c, ih]

theorem folds_case_word : FoldsCase wordCategory := by
  have hupper : Caseless Char.toUpper := caseless_of_letters (by decide)
  intro cs
  have hempty : (String.ofList (cs.map Char.toLower)).isEmpty = (String.ofList cs).isEmpty := by
    rw [Bool.eq_iff_iff, String.isEmpty_iff, String.isEmpty_iff, String.ofList_eq_empty_iff,
      String.ofList_eq_empty_iff, List.map_eq_nil_iff]
  simp only [wordCategory, isKeyword, Mnemonic.lookup?, Mnemonic.upperCase, String.toList_ofList,
    hempty, hupper.map cs, folds_case_byte_length cs]

theorem folds_case_symbol : FoldsCase symbolCategory := by
  have hone : Caseless fun c => symbolCategory [c] := caseless_of_letters (by decide)
  have hmore : ∀ c d cs, symbolCategory (c :: d :: cs) = .operatorOther := by
    intro c d cs
    simp [symbolCategory, operators]
  intro cs
  match cs with
  | [] => rfl
  | [c] => exact hone c
  | c :: d :: cs => rw [List.map_cons, List.map_cons, hmore, hmore]

theorem folds_case_bracket : FoldsCase bracketCategory := by
  have hone : Caseless fun c => bracketCategory [c] := caseless_of_letters (by decide)
  have hmore : ∀ c cs, bracketCategory (c :: cs) = bracketCategory [c] := by
    intro c cs
    unfold bracketCategory
    split <;> simp_all
  intro cs
  cases cs with
  | nil => rfl
  | cons c cs =>
    rw [List.map_cons, hmore, hmore c]
    exact hone c

theorem outline_lexemes {cs ds : List Char}
    (h : cs.map Char.toLower = ds.map Char.toLower) (a : Action) :
    (a.lexemes cs).map Lexeme.outline = (a.lexemes ds).map Lexeme.outline := by
  have hbytes := folds_case_byte_length.eq h
  cases a with
  | quoted quote body =>
    have hquote : byteLength (cs.take 1) = byteLength (ds.take 1) :=
      folds_case_byte_length.eq (by rw [List.map_take, h, List.map_take])
    have hbody : byteLength cs.tail.dropLast = byteLength ds.tail.dropLast :=
      folds_case_byte_length.eq (by
        rw [List.map_dropLast, List.map_tail, h, List.map_dropLast, List.map_tail])
    have hlen : cs.length = ds.length := by simpa using congrArg List.length h
    have hclose : byteLength (cs.tail.drop (cs.tail.length - 1)) =
        byteLength (ds.tail.drop (ds.tail.length - 1)) :=
      folds_case_byte_length.eq (by
        rw [List.map_drop, List.map_tail, h, List.map_drop, List.map_tail, List.length_tail,
          List.length_tail, hlen])
    simp only [Action.lexemes, Lexeme.outline, List.map_cons, List.map_nil, hquote, hbody, hclose]
  | word => simp [Action.lexemes, Lexeme.outline, hbytes, folds_case_word.eq h]
  | symbols => simp [Action.lexemes, Lexeme.outline, hbytes, folds_case_symbol.eq h]
  | bracket => simp [Action.lexemes, Lexeme.outline, hbytes, folds_case_bracket.eq h]
  | _ => simp [Action.lexemes, Lexeme.outline, hbytes]

/-- Two runs side by side over texts that are alike. -/
theorem Scans.alike {s s' : ModeStack} {cs rest : List Char} {ls : List Lexeme}
    (h : Scans s cs ls s' rest) {ds : List Char} (hds : Alike cs ds) :
    ∃ ms rest', Scans s ds ms s' rest' ∧ Alike rest rest' ∧
      ms.map Lexeme.outline = ls.map Lexeme.outline := by
  induction h generalizing ds with
  | done => exact ⟨[], ds, .done _ ds, hds, rfl⟩
  | @step s s' cs rest ls m hne hm _ ih =>
    subst hm
    obtain ⟨ms, rest', hms, hrest, hout⟩ := ih (hds.drop _)
    have hne' : ds ≠ [] := by
      rintro rfl
      exact hne (List.eq_nil_of_length_eq_zero hds.length_eq)
    have htext : (cs.take (matchAt s.current cs).length).map Char.toLower =
        (ds.take (matchAt s.current cs).length).map Char.toLower := by
      rw [List.map_take, hds.folded, List.map_take]
    refine ⟨_, rest', .step hne' (match_at_alike hds _) hms, hrest, ?_⟩
    rw [List.map_append, List.map_append, hout, outline_lexemes htext]

theorem outline_lay_out {ls ms : List Lexeme} (h : ms.map Lexeme.outline = ls.map Lexeme.outline)
    (p : Nat) :
    (Lexeme.layOut p ms).map Token.outline = (Lexeme.layOut p ls).map Token.outline := by
  induction ls generalizing ms p with
  | nil =>
    rw [List.map_eq_nil_iff.mp h]
  | cons l ls ih =>
    cases ms with
    | nil => cases h
    | cons m ms =>
      obtain ⟨hhead, htail⟩ := List.cons.inj h
      obtain ⟨hbytes, hcat⟩ := Prod.mk.inj hhead
      rw [Lexeme.layOut, Lexeme.layOut, List.map_cons, List.map_cons, hbytes, ih htail]
      simp [Token.outline, Lexeme.token, hbytes, hcat]

/-- The case of letters decides neither where tokens begin and end nor what they are. Only
a `u` behind a backslash has to be of one case in both texts. -/
theorem lex_letter_case (x y : String) (h : Alike x.toList y.toList) :
    (lex x).map Token.outline = (lex y).map Token.outline := by
  obtain ⟨ls, s, hls⟩ := Scans.exists_end .base x.toList
  obtain ⟨ms, rest, hms, hrest, hout⟩ := hls.alike h
  rw [hrest.nil_eq] at hms
  rw [lex_of_scans hls, lex_of_scans hms, outline_lay_out hout]

theorem lex_letter_case_mnemonic :
    Alike "mov R1, #0xaF '\\X4a' \"\\u00e9\\U\"".toList
      "MOV r1, #0XAf '\\x4A' \"\\u00E9\\U\"".toList ∧
    (lex "mov R1, #0xaF '\\X4a' \"\\u00e9\\U\"").map Token.outline =
      (lex "MOV r1, #0XAf '\\x4A' \"\\u00E9\\U\"").map Token.outline :=
  ⟨by decide, lex_letter_case _ _ (by decide)⟩

/-- Before four digits `\u` is an escape and `\U` is none. -/
example : ((Lexer.ofString "'\\u00e9'").take 2).1.map Token.category = [.char, .stringEscape] ∧
    ((Lexer.ofString "'\\U00e9'").take 2).1.map Token.category =
      [.charInvalid, .stringEscapeInvalid] := by decide

end ArmTokens
