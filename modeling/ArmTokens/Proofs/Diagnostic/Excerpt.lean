import ArmTokens.Proofs.Bytes.Cut
import ArmTokens.Proofs.Diagnostic.OneLine
import ArmTokens.Proofs.Diagnostic.Walk

/-!
# The excerpts of any span

Both ends of a span have a line that exists and a column on it that can be cut
at. So every span whose end exists has its excerpts, one or two, and they are
made of the parts of the shown lines before and behind the ends of the span.
-/

set_option autoImplicit false

namespace ArmTokens

namespace Excerpt

/-- What stands before the carets in the row below the line. -/
def lead (e : Excerpt) : List Char :=
  List.replicate e.gutter ' ' ++ [' ', e.mark, ' '] ++ List.replicate e.indent ' '

theorem underline_eq (e : Excerpt) :
    e.underline = e.lead ++ List.replicate e.carets '^' ++ e.note ++ ['\n'] := by
  rw [underline, lead]

theorem render_eq (e : Excerpt) :
    e.render = rowLabel e.number ++ e.line ++ ['\n'] ++
      (e.lead ++ List.replicate e.carets '^' ++ e.note ++ ['\n']) := by
  rw [render, row, underline_eq, rowLabel]

end Excerpt

def shownUnder (text as bs : List Char) : List Char :=
  (shownBefore text bs).drop (shownBefore text as).length

theorem shown_before_under {as bs : List Char} (text : List Char) (h : as <+: bs)
    (hline : endedLines as = endedLines bs) :
    shownBefore text as ++ shownUnder text as bs = shownBefore text bs := by
  obtain ⟨under, hunder⟩ := shown_before_mono text h hline
  rw [shownUnder, ← hunder, List.drop_left]

theorem columns_before {text as : List Char} (h : as <+: text) :
    columns (shownLine text as) 0 (byteLength (lastLine as)) = .ok (shownBefore text as) := by
  have hparts : shownLine text as = [] ++ shownBefore text as ++ shownBehind text as :=
    (shown_before_append h).symm
  refine columns_of_parts hparts (Nat.zero_min _) ?_
  rw [column_shown h, byteLength, Nat.zero_add]

theorem columns_behind {text as : List Char} (h : as <+: text) :
    columns (shownLine text as) (byteLength (lastLine as)) (byteLength (shownLine text as)) =
      .ok (shownBehind text as) := by
  have hparts : shownLine text as = shownBefore text as ++ shownBehind text as ++ [] := by
    rw [List.append_nil, shown_before_append h]
  refine columns_of_parts hparts (column_shown h) ?_
  rw [Nat.min_self, ← byte_length_append, shown_before_append h]

theorem columns_under {text as bs : List Char} (has : as <+: bs) (hbs : bs <+: text)
    (hline : endedLines as = endedLines bs) :
    columns (shownLine text as) (byteLength (lastLine as)) (byteLength (lastLine bs)) =
      .ok (shownUnder text as bs) := by
  have hshown : shownLine text as = shownLine text bs := by
    rw [shownLine, shownLine, hline]
  have hparts : shownLine text as =
      shownBefore text as ++ shownUnder text as bs ++ shownBehind text bs := by
    rw [shown_before_under text has hline, shown_before_append hbs, hshown]
  refine columns_of_parts hparts (column_shown (has.trans hbs)) ?_
  rw [hshown, column_shown hbs, ← byte_length_append, shown_before_under text has hline]

variable [ColumnWidth]

def openingExcerpt (number width : Nat) (before under : List Char) : Excerpt where
  number := number
  line := before ++ under
  gutter := width
  mark := ':'
  indent := displayWidth before
  carets := displayWidth under
  note := []

def closingExcerpt (number : Nat) (under behind note : List Char) : Excerpt where
  number := number
  line := under ++ behind
  gutter := (decimal number).length
  mark := ' '
  indent := 0
  carets := displayWidth under
  note := ' ' :: note

theorem one_line_excerpt {text as bs : List Char} (has : as <+: bs) (hbs : bs <+: text)
    (hline : endedLines as = endedLines bs) (note : List Char) :
    oneLineExcerpt text (.behind as) (.behind bs) note =
      .ok (partExcerpt (endedLines as + 1) (shownBefore text as) (shownUnder text as bs)
        (shownBehind text bs) note) := by
  have hat : lineAt text (endedLines as + 1) = shownLine text as := rfl
  have hparts : shownLine text as =
      shownBefore text as ++ shownUnder text as bs ++ shownBehind text bs := by
    rw [shown_before_under text has hline, shown_before_append hbs, shownLine, shownLine, hline]
  rw [partExcerpt, ← hparts]
  simp only [oneLineExcerpt, Position.behind, hat, columns_before (has.trans hbs),
    columns_under has hbs hline]
  rfl

theorem first_excerpt {text as : List Char} (has : as <+: text) (stop : Position) :
    firstExcerpt text (.behind as) stop =
      .ok (openingExcerpt (endedLines as + 1) (decimal stop.line).length (shownBefore text as)
        (shownBehind text as)) := by
  have hat : lineAt text (endedLines as + 1) = shownLine text as := rfl
  rw [openingExcerpt, shown_before_append has]
  simp only [firstExcerpt, Position.behind, hat, columns_before has, columns_behind has]
  rfl

theorem last_excerpt {text bs : List Char} (hbs : bs <+: text) (note : List Char) :
    lastExcerpt text (.behind bs) note =
      .ok (closingExcerpt (endedLines bs + 1) (shownBefore text bs) (shownBehind text bs)
        note) := by
  have hat : lineAt text (endedLines bs + 1) = shownLine text bs := rfl
  rw [closingExcerpt, shown_before_append hbs]
  simp only [lastExcerpt, Position.behind, hat, columns_before hbs]
  rfl

/-- The excerpts of a span that runs from the end of one start of the text to the end of
another. -/
def spanExcerpts (text as bs note : List Char) : List Excerpt :=
  if endedLines as = endedLines bs then
    [partExcerpt (endedLines as + 1) (shownBefore text as) (shownUnder text as bs)
      (shownBehind text bs) note]
  else
    [openingExcerpt (endedLines as + 1) (decimal (endedLines bs + 1)).length (shownBefore text as)
      (shownBehind text as),
     closingExcerpt (endedLines bs + 1) (shownBefore text bs) (shownBehind text bs) note]

/-- A span whose end exists has its excerpts, wherever its ends fall. -/
theorem excerpts_eq (text : List Char) {span : Span}
    (hstop : span.offset + span.len < offsetLimit) (note : List Char) :
    excerpts text span note = .ok (spanExcerpts text (textBefore text span.offset)
      (textBefore text (span.offset + span.len)) note) := by
  have hspan : span.stop = .ok (span.offset + span.len) := Span.stop_eq_ok_iff.mpr ⟨rfl, hstop⟩
  have has := text_before_mono text (Nat.le_add_right span.offset span.len)
  have hbs := text_before_start text (span.offset + span.len)
  simp only [excerpts, hspan, ok_bind, Position.of_offset_eq]
  generalize textBefore text span.offset = as at has ⊢
  generalize textBefore text (span.offset + span.len) = bs at has hbs ⊢
  by_cases hline : endedLines as = endedLines bs
  · rw [spanExcerpts, if_pos hline, if_pos (Position.line_behind_eq_iff.mpr hline),
      one_line_excerpt has hbs hline]
    rfl
  · rw [spanExcerpts, if_neg hline, if_neg (mt Position.line_behind_eq_iff.mp hline),
      first_excerpt (has.trans hbs), last_excerpt hbs]
    rfl

theorem render_eq (text : String) {span : Span} (hstop : span.offset + span.len < offsetLimit)
    (name what note : String) :
    render text span name what note = .ok (String.ofList (headline what name ++
      (spanExcerpts text.toList (textBefore text.toList span.offset)
        (textBefore text.toList (span.offset + span.len)) note.toList).flatMap
          Excerpt.render)) := by
  rw [render, excerpts_eq text.toList hstop]
  rfl

end ArmTokens
