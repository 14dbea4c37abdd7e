import ArmTokens.Proofs.Diagnostic.Excerpt
import ArmTokens.Text.Unicode

/-!
# Where the carets start

The row of carets begins with blanks and a mark in the place of the line number
and its bar, and with as many blanks more as the text before the carets has
columns. The blanks are as many as the number of the line on which the span
stops has digits. So the carets below the line on which it starts are out of
place when the two numbers have different lengths.
-/

set_option autoImplicit false

namespace ArmTokens

def numberLength (text : List Char) (offset : Nat) : Nat :=
  (decimal (Position.ofOffset text offset).line).length

section

variable [ColumnWidth]

namespace Excerpt

/-- The carets start in the column behind a part of the row above them. -/
def Below (e : Excerpt) (before : List Char) : Prop :=
  displayWidth e.lead = displayWidth (rowLabel e.number ++ before)

instance (e : Excerpt) (before : List Char) : Decidable (e.Below before) :=
  inferInstanceAs (Decidable (displayWidth e.lead = displayWidth (rowLabel e.number ++ before)))

theorem display_width_lead {e : Excerpt} (h : isAscii e.mark = true) :
    displayWidth e.lead = e.gutter + 3 + e.indent := by
  have hblank : isAscii ' ' = true := by decide
  rw [lead, display_width_append, display_width_append, display_width_replicate hblank,
    display_width_replicate hblank]
  simp only [displayWidth, ColumnWidth.width_ascii _ h, ColumnWidth.width_ascii _ hblank]

end Excerpt

theorem part_below (number : Nat) (before part behind note : List Char) :
    (partExcerpt number before part behind note).Below before := by
  rw [Excerpt.Below, Excerpt.display_width_lead rfl, display_width_append, display_width_row_label]
  rfl

theorem closing_below (number : Nat) (under behind note : List Char) :
    (closingExcerpt number under behind note).Below [] := by
  rw [Excerpt.Below, Excerpt.display_width_lead rfl, display_width_append, display_width_row_label]
  rfl

theorem opening_shift (number width : Nat) (before under : List Char) :
    displayWidth (openingExcerpt number width before under).lead + (decimal number).length =
      displayWidth (rowLabel number ++ before) + width := by
  rw [Excerpt.display_width_lead rfl, display_width_append, display_width_row_label]
  show width + 3 + displayWidth before + _ = _
  omega

structure CaretsPlaced (before : List Char) (start stop : Nat) (first : Excerpt)
    (others : List Excerpt) : Prop where
  first_number : first.number = start
  first_carets : displayWidth first.lead + (decimal start).length =
    displayWidth (rowLabel first.number ++ before) + (decimal stop).length
  last_number : ∀ last ∈ others, last.number = stop
  last_carets : ∀ last ∈ others, last.Below []

theorem carets_placed (text as bs note : List Char) :
    ∃ first others, spanExcerpts text as bs note = first :: others ∧
      CaretsPlaced (shownBefore text as) (endedLines as + 1) (endedLines bs + 1) first others := by
  by_cases hline : endedLines as = endedLines bs
  · rw [spanExcerpts, if_pos hline]
    refine ⟨_, [], rfl, rfl, ?_, List.forall_mem_nil _, List.forall_mem_nil _⟩
    rw [part_below, hline]
  · rw [spanExcerpts, if_neg hline]
    exact ⟨_, _, rfl, rfl, opening_shift _ _ _ _, List.forall_mem_singleton.mpr rfl,
      List.forall_mem_singleton.mpr (closing_below _ _ _ _)⟩

/-- The carets of the first excerpt start below the start of the span, and those of the second
below the start of its line. -/
def CaretsAligned (text : List Char) (span : Span) (note : List Char) : Prop :=
  ∃ first others, excerpts text span note = .ok (first :: others) ∧
    first.Below (shownBefore text (textBefore text span.offset)) ∧ ∀ last ∈ others, last.Below []

/-- Only the carets below the first of two lines can be out of place, by as many columns as the
numbers of the two lines differ in length. -/
theorem carets_aligned_iff (text : String) (span : Span) (name what note : String)
    (hstop : span.offset + span.len < offsetLimit) :
    ∃ first others, excerpts text.toList span note.toList = .ok (first :: others) ∧
      render text span name what note = .ok (String.ofList (headline what name ++
        (first :: others).flatMap Excerpt.render)) ∧
      CaretsPlaced (shownBefore text.toList (textBefore text.toList span.offset))
        (Position.ofOffset text.toList span.offset).line
        (Position.ofOffset text.toList (span.offset + span.len)).line first others ∧
      (CaretsAligned text.toList span note.toList ↔
        numberLength text.toList span.offset =
          numberLength text.toList (span.offset + span.len)) := by
  obtain ⟨first, others, hspan, hplaced⟩ := carets_placed text.toList
    (textBefore text.toList span.offset) (textBefore text.toList (span.offset + span.len))
    note.toList
  have hexcerpts := excerpts_eq text.toList hstop note.toList
  rw [hspan] at hexcerpts
  refine ⟨first, others, hexcerpts, ?_, ?_, ?_⟩
  · rw [render_eq text hstop, hspan]
  · rw [Position.of_offset_eq, Position.of_offset_eq]
    exact hplaced
  · have hcarets := hplaced.first_carets
    rw [numberLength, numberLength, Position.of_offset_eq, Position.of_offset_eq]
    constructor
    · rintro ⟨first', others', hexcerpts', hbelow, _⟩
      obtain ⟨rfl, rfl⟩ := List.cons.inj (Except.ok.inj (hexcerpts.symm.trans hexcerpts'))
      rw [hbelow] at hcarets
      exact Nat.add_left_cancel hcarets
    · intro hlength
      rw [show (decimal (endedLines (textBefore text.toList span.offset) + 1)).length = _
        from hlength] at hcarets
      exact ⟨first, others, hexcerpts, Nat.add_right_cancel hcarets, hplaced.last_carets⟩

end

theorem carets_aligned_two_lines :
    1 + 5 < offsetLimit ∧ CaretsAligned "\"ab\ncd\"".toList ⟨1, 5⟩ "spans lines".toList := by
  have hstop : 1 + 5 < offsetLimit := by decide
  obtain ⟨_, _, _, _, _, haligned⟩ :=
    carets_aligned_iff "\"ab\ncd\"" ⟨1, 5⟩ "a.s" "while lexing" "spans lines" hstop
  exact ⟨hstop, haligned.mpr (by decide)⟩

/-- From line 9 to line 10 the carets below the first are one column too far to the right. -/
theorem carets_out_of_place : 8 + 4 < offsetLimit ∧
    ¬CaretsAligned "\n\n\n\n\n\n\n\nab\ncd".toList ⟨8, 4⟩ "m".toList := by
  refine ⟨by decide, ?_⟩
  rintro ⟨first, others, hexcerpts, hbelow, _⟩
  have hshown : excerpts "\n\n\n\n\n\n\n\nab\ncd".toList ⟨8, 4⟩ "m".toList = .ok
      [⟨9, ['a', 'b'], 2, ':', 0, 2, []⟩, ⟨10, ['c', 'd'], 2, ' ', 0, 1, [' ', 'm']⟩] := rfl
  obtain ⟨rfl, rfl⟩ := List.cons.inj (Except.ok.inj (hshown.symm.trans hexcerpts))
  revert hbelow
  decide

end ArmTokens
