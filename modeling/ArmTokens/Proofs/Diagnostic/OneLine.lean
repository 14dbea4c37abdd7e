import ArmTokens.Diagnostic
import ArmTokens.Pattern.CharClass
import ArmTokens.Proofs.Diagnostic.Position

/-!
# A diagnostic on one line

The diagnostic for a part of a text without line ends shows the line that the
part stands on. Below it stand carets over the width of the part, behind as many
blanks as there are columns before the part.
-/

set_option autoImplicit false

namespace ArmTokens

def rowLabel (number : Nat) : List Char := decimal number ++ [' ', '|', ' ']

/-- A row that shows a line, and below it carets under one part of the line. -/
def pointer [ColumnWidth] (number : Nat) (before part after note : List Char) : List Char :=
  rowLabel number ++ before ++ part ++ after ++ ['\n'] ++
    List.replicate (displayWidth (rowLabel number ++ before)) ' ' ++
    List.replicate (max (displayWidth part) 1) '^' ++ [' '] ++ note ++ ['\n']

def partExcerpt [ColumnWidth] (number : Nat) (before part after note : List Char) : Excerpt where
  number := number
  line := before ++ part ++ after
  gutter := (decimal number).length
  mark := ' '
  indent := displayWidth before
  carets := max (displayWidth part) 1
  note := ' ' :: note

theorem display_width_of_ascii [ColumnWidth] {cs : List Char} (h : ∀ c ∈ cs, isAscii c = true) :
    displayWidth cs = cs.length := by
  induction cs with
  | nil => rfl
  | cons c cs ih =>
    rw [displayWidth, ColumnWidth.width_ascii _ (h c List.mem_cons_self),
      ih fun d hd => h d (List.mem_cons_of_mem c hd), List.length_cons, Nat.add_comm]

theorem ascii_of_mem_decimal {n : Nat} {c : Char} (h : c ∈ decimal n) : isAscii c = true := by
  have hdigit := digit_of_mem_decimal h
  simp only [Char.isDigit, Bool.and_eq_true, decide_eq_true_eq] at hdigit
  exact decide_eq_true (Nat.lt_of_le_of_lt hdigit.2 (by decide))

theorem display_width_row_label [ColumnWidth] (number : Nat) :
    displayWidth (rowLabel number) = (decimal number).length + 3 := by
  have hbar : displayWidth [' ', '|', ' '] = 3 := display_width_of_ascii (List.all_eq_true.mp rfl)
  rw [rowLabel, display_width_append, display_width_of_ascii fun _ => ascii_of_mem_decimal, hbar]

theorem render_part_excerpt [ColumnWidth] (number : Nat) (before part after note : List Char) :
    (partExcerpt number before part after note).render = pointer number before part after note := by
  have hblanks : List.replicate (displayWidth (rowLabel number ++ before)) ' ' =
      List.replicate (decimal number).length ' ' ++ [' ', ' ', ' '] ++
        List.replicate (displayWidth before) ' ' := by
    rw [display_width_append, display_width_row_label, ← List.replicate_append_replicate,
      ← List.replicate_append_replicate]
    rfl
  rw [pointer, hblanks]
  simp [Excerpt.render, Excerpt.row, Excerpt.underline, partExcerpt, rowLabel]

theorem columns_of_parts {line as bs cs : List Char} {start stop : Nat}
    (hline : line = as ++ bs ++ cs) (hstart : min start (byteLength line) = byteLength as)
    (hstop : min stop (byteLength line) = byteLength as + byteLength bs) :
    columns line start stop = .ok bs := by
  rw [columns, hstart, hstop, hline, slice_append]

theorem columns_append (as bs cs : List Char) :
    columns (as ++ bs ++ cs) (byteLength as) (byteLength as + byteLength bs) = .ok bs := by
  have hlen : byteLength (as ++ bs ++ cs) = byteLength as + byteLength bs + byteLength cs := by
    rw [byte_length_append, byte_length_append]
  exact columns_of_parts rfl (Nat.min_eq_left (by omega)) (Nat.min_eq_left (by omega))

/-- A part of a text without line ends stands on one line. -/
structure Part (text before part behind : List Char) : Prop where
  split : text = before ++ part ++ behind
  nonempty : part ≠ []
  one_line : ∀ c ∈ part, isLineEnd c = false

namespace Part

variable {text before part behind : List Char}

theorem no_feed (h : Part text before part behind) : '\n' ∉ part := by
  intro hmem
  cases h.one_line _ hmem

theorem no_return (h : Part text before part behind) : '\r' ∉ part := by
  intro hmem
  cases h.one_line _ hmem

theorem start (h : Part text before part behind) :
    Position.ofOffset text (byteLength before) =
      ⟨endedLines before + 1, byteLength (lastLine before)⟩ := by
  rw [h.split, List.append_assoc]
  exact Position.of_offset_append before _

theorem stop (h : Part text before part behind) :
    Position.ofOffset text (byteLength before + byteLength part) =
      ⟨endedLines before + 1, byteLength (lastLine before) + byteLength part⟩ := by
  rw [h.split, ← byte_length_append, Position.of_offset_append, Position.behind_append h.no_feed]

theorem line (h : Part text before part behind) :
    (lines text)[endedLines before]? = some (lastLine before ++ part ++ firstLine behind) := by
  rw [h.split]
  exact line_of_part h.no_feed before behind

theorem line_at (h : Part text before part behind) :
    lineAt text (endedLines before + 1) =
      lastLine before ++ part ++ withoutReturn (firstLine behind) := by
  rw [lineAt, Nat.add_sub_cancel, h.line, Option.getD_some,
    without_return_append h.nonempty h.no_return]

theorem excerpts [ColumnWidth] (h : Part text before part behind)
    (hstop : byteLength before + byteLength part < offsetLimit) (note : List Char) :
    excerpts text ⟨byteLength before, byteLength part⟩ note =
      .ok [partExcerpt (endedLines before + 1) (lastLine before) part
        (withoutReturn (firstLine behind)) note] := by
  have hbefore : columns (lastLine before ++ part ++ withoutReturn (firstLine behind)) 0
      (byteLength (lastLine before)) = .ok (lastLine before) := by
    have hcolumns := columns_append [] (lastLine before)
      (part ++ withoutReturn (firstLine behind))
    rwa [List.nil_append, ← List.append_assoc, byteLength, Nat.zero_add] at hcolumns
  have hspan : Span.stop ⟨byteLength before, byteLength part⟩ =
      .ok (byteLength before + byteLength part) := Span.stop_eq_ok_iff.mpr ⟨rfl, hstop⟩
  simp only [ArmTokens.excerpts, hspan, h.start]
  show (if _ then _ else _) = _
  rw [h.stop, if_pos rfl]
  simp only [oneLineExcerpt, h.line_at, hbefore, columns_append]
  rfl

theorem render [ColumnWidth] {text : String} (h : Part text.toList before part behind)
    (hstop : byteLength before + byteLength part < offsetLimit) (name what note : String) :
    render text ⟨byteLength before, byteLength part⟩ name what note =
      .ok (String.ofList (headline what name ++ pointer (endedLines before + 1) (lastLine before)
        part (withoutReturn (firstLine behind)) note.toList)) := by
  rw [ArmTokens.render, h.excerpts hstop, ← render_part_excerpt]
  simp [bind, Except.bind, pure, Except.pure]

end Part

end ArmTokens
