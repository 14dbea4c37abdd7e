import ArmTokens.Diagnostic
import ArmTokens.Proofs.Diagnostic.Position

/-!
# The text before an offset

A character stands before an offset when its first byte does. These characters
are a start of the text, and the position of the offset is the one behind them,
also where the offset falls inside a character or past the text. The line of the
position exists, and what is shown of it parts into what stands before the
offset and what does not.
-/

set_option autoImplicit false

namespace ArmTokens

/-- The characters whose first byte stands before the offset. -/
def textBefore : List Char → Nat → List Char
  | [], _ => []
  | c :: cs, offset => if offset = 0 then [] else c :: textBefore cs (offset - c.utf8Size)

theorem text_before_start (text : List Char) (offset : Nat) : textBefore text offset <+: text := by
  induction text generalizing offset with
  | nil => exact List.nil_prefix
  | cons c cs ih =>
    rw [textBefore]
    split
    · exact List.nil_prefix
    · exact List.prefix_cons_inj c |>.mpr (ih _)

theorem text_before_mono (text : List Char) {m n : Nat} (h : m ≤ n) :
    textBefore text m <+: textBefore text n := by
  induction text generalizing m n with
  | nil => exact List.nil_prefix
  | cons c cs ih =>
    rw [textBefore, textBefore]
    split
    · exact List.nil_prefix
    · rw [if_neg (by omega)]
      exact List.prefix_cons_inj c |>.mpr (ih (by omega))

/-- The characters before an offset are the least start of the text that reaches it. -/
theorem text_before_least {text as : List Char} {offset : Nat} (h : as <+: text)
    (hoffset : offset ≤ byteLength as) : textBefore text offset <+: as := by
  induction text generalizing as offset with
  | nil => exact List.nil_prefix
  | cons c cs ih =>
    rw [textBefore]
    split
    · exact List.nil_prefix
    · next hpos =>
      cases as with
      | nil => exact absurd (Nat.le_zero.mp hoffset) hpos
      | cons a as =>
        obtain ⟨rfl, hstart⟩ := List.cons_prefix_cons.mp h
        rw [byteLength] at hoffset
        exact List.prefix_cons_inj a |>.mpr (ih hstart (by omega))

theorem text_before_eq_of_lt {text : List Char} {offset : Nat}
    (h : byteLength (textBefore text offset) < offset) : textBefore text offset = text := by
  induction text generalizing offset with
  | nil => rfl
  | cons c cs ih =>
    rw [textBefore] at h ⊢
    split at h
    · next hzero => exact absurd h (hzero ▸ Nat.not_lt_zero _)
    · next hpos =>
      rw [byteLength] at h
      rw [if_neg hpos, ih (by omega)]

theorem Position.walk_behind (as cs : List Char) (offset : Nat) :
    (behind as).walk cs offset = behind (as ++ textBefore cs offset) := by
  induction cs generalizing as offset with
  | nil => rw [walk, textBefore, List.append_nil]
  | cons c cs ih =>
    rw [walk, textBefore]
    split
    · rw [List.append_nil]
    · rw [after_behind, ih, List.append_assoc, List.singleton_append]

theorem Position.of_offset_eq (text : List Char) (offset : Nat) :
    ofOffset text offset = behind (textBefore text offset) :=
  walk_behind [] text offset

theorem Position.line_behind_eq_iff {as bs : List Char} :
    (behind as).line = (behind bs).line ↔ endedLines as = endedLines bs :=
  Nat.add_right_cancel_iff

theorem ended_lines_eq_count (cs : List Char) : endedLines cs = cs.count '\n' := by
  induction cs with
  | nil => rfl
  | cons c cs ih =>
    obtain ⟨l, ls, h⟩ := exists_lines cs
    rw [endedLines, h] at ih
    rw [endedLines, lines, h]
    split
    · next hc => rw [hc, List.count_cons_self, ← ih]; rfl
    · next hc => rw [List.count_cons_of_ne hc, ← ih]; rfl

theorem ended_lines_append_iff (as u : List Char) :
    endedLines as = endedLines (as ++ u) ↔ '\n' ∉ u := by
  rw [ended_lines_eq_count, ended_lines_eq_count, List.count_append, ← List.count_eq_zero]
  omega

theorem last_line_mono {as bs : List Char} (h : as <+: bs) (hline : endedLines as = endedLines bs) :
    lastLine as <+: lastLine bs := by
  obtain ⟨u, rfl⟩ := h
  rw [last_line_append ((ended_lines_append_iff as u).mp hline)]
  exact List.prefix_append _ _

theorem line_of_start {text as : List Char} (h : as <+: text) :
    ∃ tail, (lines text)[endedLines as]? = some (lastLine as ++ tail) := by
  obtain ⟨bs, rfl⟩ := h
  exact ⟨firstLine bs, line_of_append as bs⟩

theorem without_return_start (line : List Char) : withoutReturn line <+: line := by
  unfold withoutReturn
  split
  · exact List.dropLast_prefix line
  · exact List.prefix_rfl

/-- The line on which a start of the text ends, as it is shown. -/
def shownLine (text as : List Char) : List Char := lineAt text (endedLines as + 1)

def shownBefore (text as : List Char) : List Char := (lastLine as).take (shownLine text as).length

def shownBehind (text as : List Char) : List Char := (shownLine text as).drop (lastLine as).length

theorem shown_line_append (as bs : List Char) :
    shownLine (as ++ bs) as = withoutReturn (lastLine as ++ firstLine bs) := by
  rw [shownLine, lineAt, Nat.add_sub_cancel, line_of_append, Option.getD_some]

theorem shown_line_cases {text as : List Char} (h : as <+: text) :
    shownLine text as <+: lastLine as ∨ lastLine as <+: shownLine text as := by
  obtain ⟨bs, rfl⟩ := h
  rw [shown_line_append]
  exact List.prefix_or_prefix_of_prefix (without_return_start _) (List.prefix_append _ _)

theorem shown_before_append {text as : List Char} (h : as <+: text) :
    shownBefore text as ++ shownBehind text as = shownLine text as := by
  rw [shownBefore, shownBehind]
  rcases shown_line_cases h with hover | hwithin
  · rw [← List.prefix_iff_eq_take.mp hover, List.drop_of_length_le hover.length_le,
      List.append_nil]
  · rw [List.take_of_length_le hwithin.length_le]
    obtain ⟨tail, htail⟩ := hwithin
    rw [← htail, List.drop_left]

theorem column_shown {text as : List Char} (h : as <+: text) :
    min (byteLength (lastLine as)) (byteLength (shownLine text as)) =
      byteLength (shownBefore text as) := by
  rw [shownBefore]
  rcases shown_line_cases h with hover | hwithin
  · rw [← List.prefix_iff_eq_take.mp hover]
    obtain ⟨tail, htail⟩ := hover
    rw [← htail, byte_length_append]
    omega
  · rw [List.take_of_length_le hwithin.length_le]
    obtain ⟨tail, htail⟩ := hwithin
    rw [← htail, byte_length_append]
    omega

theorem shown_before_mono {as bs : List Char} (text : List Char) (h : as <+: bs)
    (hline : endedLines as = endedLines bs) : shownBefore text as <+: shownBefore text bs := by
  obtain ⟨tail, htail⟩ := last_line_mono h hline
  rw [shownBefore, shownBefore, shownLine, shownLine, hline, ← htail, List.take_append]
  exact List.prefix_append _ _

end ArmTokens
