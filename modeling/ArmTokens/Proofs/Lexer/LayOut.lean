import ArmTokens.Proofs.Lexer.Run

/-!
# Lexemes laid out

Where the tokens of a row of lexemes stand. A token in the row has the text of
its own lexeme, and the lexemes before it fill the bytes up to its offset.
-/

set_option autoImplicit false

namespace ArmTokens

def Token.shift (n : Nat) (t : Token) : Token :=
  { t with span := ⟨t.span.offset + n, t.span.len⟩ }

def Token.finish (t : Token) : Nat := t.span.offset + t.span.len

@[simp] theorem start_token (l : Lexeme) (p : Nat) : (l.token p).start = p := rfl

@[simp] theorem finish_token (l : Lexeme) (p : Nat) :
    (l.token p).finish = p + byteLength l.text := rfl

theorem join_append (ls ms : List Lexeme) :
    Lexeme.join (ls ++ ms) = Lexeme.join ls ++ Lexeme.join ms := List.flatMap_append

theorem join_cons (l : Lexeme) (ls : List Lexeme) :
    Lexeme.join (l :: ls) = l.text ++ Lexeme.join ls := rfl

theorem byte_length_pos {cs : List Char} (h : cs ≠ []) : 0 < byteLength cs :=
  Nat.lt_of_lt_of_le (List.length_pos_iff.mpr h) (length_le_byte_length cs)

theorem exists_lexemes (text : String) :
    ∃ ls, lex text = Lexeme.layOut 0 ls ∧ Lexeme.join ls = text.toList ∧ ∀ l ∈ ls, l.text ≠ [] := by
  obtain ⟨ls, s, hscans⟩ := Scans.exists_end .base text.toList
  have hjoin := hscans.join
  rw [List.append_nil] at hjoin
  exact ⟨ls, lex_of_scans hscans, hjoin, hscans.text_ne_nil⟩

/-- Where a row of tokens is cut, the lexemes are cut. -/
theorem lay_out_cut {p : Nat} {ls : List Lexeme} {before behind : List Token}
    (h : Lexeme.layOut p ls = before ++ behind) :
    ∃ ls₁ ls₂, ls = ls₁ ++ ls₂ ∧ before = Lexeme.layOut p ls₁ ∧
      behind = Lexeme.layOut (p + byteLength (Lexeme.join ls₁)) ls₂ := by
  have hlen : before.length ≤ ls.length := by
    rw [← Lexeme.length_lay_out p ls, h, List.length_append]
    exact Nat.le_add_right _ _
  rw [← List.take_append_drop before.length ls, Lexeme.lay_out_append] at h
  obtain ⟨hbefore, hbehind⟩ := List.append_inj h
    (by rw [Lexeme.length_lay_out, List.length_take_of_le hlen])
  exact ⟨_, _, (List.take_append_drop before.length ls).symm, hbefore.symm, hbehind.symm⟩

theorem lay_out_split {p : Nat} {ls : List Lexeme} {before behind : List Token} {t : Token}
    (h : Lexeme.layOut p ls = before ++ t :: behind) :
    ∃ ls₁ l ls₂, ls = ls₁ ++ l :: ls₂ ∧ before = Lexeme.layOut p ls₁ ∧
      t = l.token (p + byteLength (Lexeme.join ls₁)) ∧
      behind = Lexeme.layOut (p + byteLength (Lexeme.join ls₁) + byteLength l.text) ls₂ := by
  obtain ⟨ls₁, ls₂, rfl, hbefore, hbehind⟩ := lay_out_cut h
  cases ls₂ with
  | nil => cases hbehind
  | cons l ls₂ =>
    obtain ⟨ht, htail⟩ := List.cons.inj hbehind
    exact ⟨ls₁, l, ls₂, rfl, hbefore, ht, htail⟩

theorem mem_lay_out {p : Nat} {ls : List Lexeme} {t : Token} (h : t ∈ Lexeme.layOut p ls) :
    ∃ ls₁ l ls₂, ls = ls₁ ++ l :: ls₂ ∧ t = l.token (p + byteLength (Lexeme.join ls₁)) := by
  obtain ⟨before, behind, hsplit⟩ := List.append_of_mem h
  obtain ⟨ls₁, l, ls₂, hls, _, ht, _⟩ := lay_out_split hsplit
  exact ⟨ls₁, l, ls₂, hls, ht⟩

/-- Where a token of the row stands in the text that the lexemes make up. -/
theorem token_place {text : String} {ls : List Lexeme} (hjoin : Lexeme.join ls = text.toList)
    {t : Token} (ht : t ∈ Lexeme.layOut 0 ls) :
    ∃ as l bs, l ∈ ls ∧ text.toList = as ++ l.text ++ bs ∧ t = l.token (byteLength as) := by
  obtain ⟨ls₁, l, ls₂, rfl, rfl⟩ := mem_lay_out ht
  refine ⟨Lexeme.join ls₁, l, Lexeme.join ls₂, by simp, ?_, by rw [Nat.zero_add]⟩
  rw [← hjoin, join_append, join_cons, List.append_assoc]

theorem lay_out_bounds {p : Nat} {ls : List Lexeme} {t : Token} (h : t ∈ Lexeme.layOut p ls) :
    p ≤ t.start ∧ t.finish ≤ p + byteLength (Lexeme.join ls) := by
  obtain ⟨ls₁, l, ls₂, rfl, rfl⟩ := mem_lay_out h
  rw [start_token, finish_token, join_append, join_cons, byte_length_append, byte_length_append]
  omega

theorem head_lay_out {p : Nat} {ls : List Lexeme} {t : Token}
    (h : t ∈ (Lexeme.layOut p ls).head?) : t.start = p := by
  cases ls with
  | nil => cases h
  | cons l ls =>
    cases h
    rfl

theorem adjacent_lay_out {p : Nat} {ls : List Lexeme} {before behind : List Token} {t u : Token}
    (h : Lexeme.layOut p ls = before ++ t :: u :: behind) : u.start = t.finish := by
  obtain ⟨ls₁, l, ls₂, _, _, rfl, hbehind⟩ := lay_out_split h
  cases ls₂ with
  | nil => cases hbehind
  | cons l' ls₂ =>
    obtain ⟨rfl, _⟩ := List.cons.inj hbehind
    rfl

theorem last_lay_out {p : Nat} {ls : List Lexeme} {t : Token}
    (h : t ∈ (Lexeme.layOut p ls).getLast?) : t.finish = p + byteLength (Lexeme.join ls) := by
  obtain ⟨before, h⟩ := List.getLast?_eq_some_iff.mp h
  obtain ⟨ls₁, l, ls₂, rfl, _, rfl, hbehind⟩ := lay_out_split h
  cases ls₂ with
  | cons l' ls₂ => cases hbehind
  | nil =>
    rw [finish_token, join_append, join_cons, byte_length_append, byte_length_append, Nat.add_assoc]
    rfl

theorem start_lt_finish {p : Nat} {ls : List Lexeme} (hne : ∀ l ∈ ls, l.text ≠ []) {t : Token}
    (h : t ∈ Lexeme.layOut p ls) : t.start < t.finish := by
  obtain ⟨ls₁, l, ls₂, rfl, rfl⟩ := mem_lay_out h
  have hpos := byte_length_pos (hne l (by simp))
  rw [start_token, finish_token]
  omega

theorem filter_outside {r p q : Nat} {ls : List Lexeme} (hne : ∀ l ∈ ls, l.text ≠ [])
    (h : r + byteLength (Lexeme.join ls) ≤ p ∨ q ≤ r) :
    (Lexeme.layOut r ls).filter (fun t => p ≤ t.start ∧ t.finish ≤ q) = [] := by
  apply List.filter_eq_nil_iff.mpr
  intro t ht
  have hb := lay_out_bounds ht
  have hlt := start_lt_finish hne ht
  rw [decide_eq_true_iff]
  omega

theorem filter_lay_out (before ls behind : List Lexeme)
    (hne : ∀ l ∈ before ++ ls ++ behind, l.text ≠ []) {p q : Nat}
    (hp : byteLength (Lexeme.join before) = p) (hq : p + byteLength (Lexeme.join ls) = q) :
    (Lexeme.layOut 0 (before ++ ls ++ behind)).filter (fun t => p ≤ t.start ∧ t.finish ≤ q) =
      Lexeme.layOut p ls := by
  have hout : (Lexeme.layOut 0 before).filter (fun t => p ≤ t.start ∧ t.finish ≤ q) = [] :=
    filter_outside (fun l hl => hne l (by simp [hl])) (.inl (by omega))
  have hin : (Lexeme.layOut p ls).filter (fun t => p ≤ t.start ∧ t.finish ≤ q) =
      Lexeme.layOut p ls := by
    apply List.filter_eq_self.mpr
    intro t ht
    have hb := lay_out_bounds ht
    rw [decide_eq_true_iff]
    omega
  have hover : (Lexeme.layOut q behind).filter (fun t => p ≤ t.start ∧ t.finish ≤ q) = [] :=
    filter_outside (fun l hl => hne l (by simp [hl])) (.inr (Nat.le_refl q))
  have hsum : 0 + byteLength (Lexeme.join (before ++ ls)) = q := by
    rw [join_append, byte_length_append]
    omega
  rw [Lexeme.lay_out_append, Lexeme.lay_out_append, hsum, Nat.zero_add, hp, List.filter_append,
    List.filter_append, hout, hin, hover, List.nil_append, List.append_nil]

theorem lay_out_shift (p n : Nat) (ls : List Lexeme) :
    Lexeme.layOut (p + n) ls = (Lexeme.layOut p ls).map (Token.shift n) := by
  induction ls generalizing p with
  | nil => rfl
  | cons l ls ih =>
    rw [Lexeme.layOut, Lexeme.layOut, List.map_cons, ← ih,
      show p + n + byteLength l.text = p + byteLength l.text + n by omega]
    rfl

theorem texts_lay_out (p : Nat) (ls : List Lexeme) :
    String.join ((Lexeme.layOut p ls).map Token.text) = String.ofList (Lexeme.join ls) := by
  induction ls generalizing p with
  | nil => rfl
  | cons l ls ih =>
    rw [Lexeme.layOut, List.map_cons, String.join_cons, ih, join_cons, String.ofList_append]
    rfl

end ArmTokens
