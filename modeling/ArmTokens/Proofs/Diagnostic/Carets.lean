import ArmTokens.Proofs.Diagnostic.Excerpt
import ArmTokens.Text.Unicode

/-!
# Whether a caret is drawn

A span on one line always has a caret below it. A span that crosses lines has
carets below what it covers of the line on which it starts, and below what it
covers of the line on which it stops. Either part may take no column, and where
both take none there is no caret at all: a span that covers a line feed and
nothing else has none.
-/

set_option autoImplicit false

namespace ArmTokens

namespace Excerpt

def HasCaret (e : Excerpt) : Prop :=
  ∃ marks, e.underline = marks ++ e.note ++ ['\n'] ∧ '^' ∈ marks

theorem has_caret_iff {e : Excerpt} (h : e.mark ≠ '^') : e.HasCaret ↔ 0 < e.carets := by
  have hlead : '^' ∉ e.lead := by simp [lead, h.symm]
  have hmarks : '^' ∈ e.lead ++ List.replicate e.carets '^' ↔ 0 < e.carets := by
    simp [hlead, Nat.pos_iff_ne_zero]
  rw [← hmarks]
  constructor
  · rintro ⟨marks, heq, hmem⟩
    rw [underline_eq, List.append_cancel_right_eq, List.append_cancel_right_eq] at heq
    exact heq ▸ hmem
  · intro hmem
    exact ⟨_, e.underline_eq, hmem⟩

end Excerpt

/-- What is shown of a part of a line with the given rest of the line behind it. -/
def shownPart (part rest : List Char) : List Char :=
  if rest = [] then withoutReturn part else part

theorem shown_behind_eq {text as bs : List Char} (h : as ++ bs = text) :
    shownBehind text as = withoutReturn (firstLine bs) := by
  rw [← h, shownBehind, shown_line_append]
  by_cases hbs : firstLine bs = []
  · rw [hbs, List.append_nil, List.drop_of_length_le (without_return_start _).length_le]
    rfl
  · rw [without_return_behind hbs, List.drop_left]

theorem shown_before_eq {text as bs : List Char} (h : as ++ bs = text) :
    shownBefore text as = shownPart (lastLine as) (firstLine bs) := by
  rw [← h, shownBefore, shown_line_append, shownPart]
  by_cases hbs : firstLine bs = []
  · rw [hbs, List.append_nil, if_pos rfl]
    exact (List.prefix_iff_eq_take.mp (without_return_start _)).symm
  · rw [without_return_behind hbs, if_neg hbs, List.length_append]
    exact List.take_of_length_le (Nat.le_add_right _ _)

/-- The characters whose first byte stands under the span. -/
def textUnder (text : List Char) (span : Span) : List Char :=
  (textBefore text (span.offset + span.len)).drop (textBefore text span.offset).length

def textBehind (text : List Char) (offset : Nat) : List Char :=
  text.drop (textBefore text offset).length

theorem text_before_under (text : List Char) (span : Span) :
    textBefore text span.offset ++ textUnder text span =
      textBefore text (span.offset + span.len) :=
  List.prefix_iff_eq_append.mp (text_before_mono text (Nat.le_add_right span.offset span.len))

theorem text_before_behind (text : List Char) (offset : Nat) :
    textBefore text offset ++ textBehind text offset = text :=
  List.prefix_iff_eq_append.mp (text_before_start text offset)

theorem shown_of_feed {text : List Char} {span : Span} (h : '\n' ∈ textUnder text span) :
    shownBehind text (textBefore text span.offset) =
        withoutReturn (firstLine (textUnder text span)) ∧
      shownBefore text (textBefore text (span.offset + span.len)) =
        shownPart (lastLine (textUnder text span))
          (firstLine (textBehind text (span.offset + span.len))) := by
  have hstop := text_before_behind text (span.offset + span.len)
  have hstart := hstop
  rw [← text_before_under, List.append_assoc] at hstart
  constructor
  · rw [shown_behind_eq hstart, first_line_of_feed h]
  · rw [shown_before_eq hstop, ← text_before_under, last_line_of_feed h]

section

variable [ColumnWidth]

theorem part_has_caret (number : Nat) (before part after note : List Char) :
    (partExcerpt number before part after note).HasCaret := by
  rw [Excerpt.has_caret_iff (by simp [partExcerpt])]
  exact Nat.lt_of_lt_of_le Nat.one_pos (Nat.le_max_right _ _)

theorem opening_has_caret_iff (number width : Nat) (before under : List Char) :
    (openingExcerpt number width before under).HasCaret ↔ displayWidth under ≠ 0 := by
  rw [Excerpt.has_caret_iff (by simp [openingExcerpt]), Nat.pos_iff_ne_zero]
  rfl

theorem closing_has_caret_iff (number : Nat) (under behind note : List Char) :
    (closingExcerpt number under behind note).HasCaret ↔ displayWidth under ≠ 0 := by
  rw [Excerpt.has_caret_iff (by simp [closingExcerpt]), Nat.pos_iff_ne_zero]
  rfl

/-- The span crosses lines, and nothing that is shown of it on its first line or on its last
takes a column. -/
structure Unseen (text : List Char) (span : Span) : Prop where
  crosses : '\n' ∈ textUnder text span
  first : displayWidth (withoutReturn (firstLine (textUnder text span))) = 0
  last : displayWidth (shownPart (lastLine (textUnder text span))
    (firstLine (textBehind text (span.offset + span.len)))) = 0

def CaretDrawn (text : List Char) (span : Span) (note : List Char) : Prop :=
  ∃ es, excerpts text span note = .ok es ∧ ∃ e ∈ es, e.HasCaret

theorem span_has_caret_iff (text : List Char) (span : Span) (note : List Char) :
    (∃ e ∈ spanExcerpts text (textBefore text span.offset)
        (textBefore text (span.offset + span.len)) note, e.HasCaret) ↔ ¬Unseen text span := by
  have hline := ended_lines_append_iff (textBefore text span.offset) (textUnder text span)
  rw [text_before_under] at hline
  by_cases hfeed : '\n' ∈ textUnder text span
  · obtain ⟨hfirst, hlast⟩ := shown_of_feed hfeed
    rw [spanExcerpts, if_neg fun h => hline.mp h hfeed]
    simp only [List.mem_cons, List.not_mem_nil, or_false, exists_eq_or_imp, exists_eq_left,
      opening_has_caret_iff, closing_has_caret_iff, hfirst, hlast]
    constructor
    · intro hdrawn hunseen
      exact hdrawn.elim (· hunseen.first) (· hunseen.last)
    · intro hseen
      by_cases hempty : displayWidth (withoutReturn (firstLine (textUnder text span))) = 0
      · exact .inr fun hlast => hseen ⟨hfeed, hempty, hlast⟩
      · exact .inl hempty
  · rw [spanExcerpts, if_pos (hline.mpr hfeed)]
    exact ⟨fun _ hunseen => hfeed hunseen.crosses,
      fun _ => ⟨_, List.mem_cons_self, part_has_caret _ _ _ _ _⟩⟩

/-- A diagnostic draws no caret only for a span that crosses lines and shows nothing with a width
on the line where it starts and on the line where it stops. -/
theorem caret_drawn_iff (text : String) (span : Span) (name what note : String)
    (hstop : span.offset + span.len < offsetLimit) :
    ∃ es, excerpts text.toList span note.toList = .ok es ∧
      render text span name what note =
        .ok (String.ofList (headline what name ++ es.flatMap Excerpt.render)) ∧
      (CaretDrawn text.toList span note.toList ↔ ¬Unseen text.toList span) := by
  have hexcerpts := excerpts_eq text.toList hstop note.toList
  refine ⟨_, hexcerpts, render_eq text hstop name what note, ?_⟩
  rw [← span_has_caret_iff _ _ note.toList]
  constructor
  · rintro ⟨es, hes, hcaret⟩
    obtain rfl := Except.ok.inj (hes.symm.trans hexcerpts)
    exact hcaret
  · intro hcaret
    exact ⟨_, hexcerpts, hcaret⟩

end

theorem caret_drawn_behind_accent :
    1 + 6 < offsetLimit ∧ ¬CaretDrawn "a\u0301\r\n\u0301b".toList ⟨1, 6⟩ "m".toList ∧
      1 + 7 < offsetLimit ∧ CaretDrawn "a\u0301\r\n\u0301b".toList ⟨1, 7⟩ "m".toList := by
  have hshort : 1 + 6 < offsetLimit := by decide
  have hlong : 1 + 7 < offsetLimit := by decide
  obtain ⟨_, _, _, hnone⟩ :=
    caret_drawn_iff "a\u0301\r\n\u0301b" ⟨1, 6⟩ "a.s" "while lexing" "m" hshort
  obtain ⟨_, _, _, hsome⟩ :=
    caret_drawn_iff "a\u0301\r\n\u0301b" ⟨1, 7⟩ "a.s" "while lexing" "m" hlong
  refine ⟨hshort, ?_, hlong, hsome.mpr ?_⟩
  · intro hdrawn
    exact hnone.mp hdrawn ⟨by decide, by decide, by decide⟩
  · intro hunseen
    exact absurd hunseen.last (by decide)

/-- A line feed alone has no caret. -/
theorem no_caret_below_feed :
    0 + 1 < offsetLimit ∧ ¬CaretDrawn "\n".toList ⟨0, 1⟩ "m".toList := by
  refine ⟨by decide, ?_⟩
  rintro ⟨es, hexcerpts, e, he, hcaret⟩
  have hshown : excerpts "\n".toList ⟨0, 1⟩ "m".toList =
      .ok [⟨1, [], 1, ':', 0, 0, []⟩, ⟨2, [], 1, ' ', 0, 0, [' ', 'm']⟩] := rfl
  obtain rfl := Except.ok.inj (hshown.symm.trans hexcerpts)
  rcases List.mem_cons.mp he with rfl | he
  · exact absurd ((Excerpt.has_caret_iff (by decide)).mp hcaret) (by decide)
  · obtain rfl := List.mem_singleton.mp he
    exact absurd ((Excerpt.has_caret_iff (by decide)).mp hcaret) (by decide)

end ArmTokens
