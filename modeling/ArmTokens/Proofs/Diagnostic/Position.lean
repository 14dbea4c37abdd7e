import ArmTokens.Position

/-!
# Positions and lines

Two texts put together share one line, the last of the first and the first of
the second. The position behind a text is the number of its lines, with the
bytes of the last one. So a part of a text without line feeds stands on one of
the lines that the text is cut into.
-/

set_option autoImplicit false

namespace ArmTokens

def lastLine (cs : List Char) : List Char := (lines cs).getLast?.getD []

def firstLine (cs : List Char) : List Char := (lines cs).head?.getD []

theorem exists_lines (cs : List Char) : ∃ l ls, lines cs = l :: ls :=
  List.exists_cons_of_ne_nil (lines_ne_nil cs)

theorem lines_append (as bs : List Char) :
    lines (as ++ bs) = (lines as).dropLast ++ (lastLine as ++ firstLine bs) :: (lines bs).tail := by
  induction as with
  | nil =>
    obtain ⟨l, ls, h⟩ := exists_lines bs
    simp [lines, lastLine, firstLine, h]
  | cons a as ih =>
    obtain ⟨l, ls, h⟩ := exists_lines as
    unfold lastLine at ih ⊢
    rw [List.cons_append, lines, lines, ih, h]
    -- A line feed ends a line of its own; another character joins the first line.
    split
    · simp
    · cases ls <;> simp

theorem lines_of_one_line {u : List Char} (hu : '\n' ∉ u) : lines u = [u] := by
  induction u with
  | nil => rfl
  | cons c u ih =>
    rw [List.mem_cons, not_or] at hu
    rw [lines, if_neg (Ne.symm hu.1), ih hu.2]
    rfl

theorem lines_append_feed (as bs : List Char) :
    lines (as ++ '\n' :: bs) = lines as ++ lines bs := by
  induction as with
  | nil => rfl
  | cons a as ih =>
    obtain ⟨l, ls, h⟩ := exists_lines as
    rw [List.cons_append, lines, lines, ih, h]
    split <;> rfl

theorem lines_row {row : List Char} (h : '\n' ∉ row) (rest : List Char) :
    lines (row ++ '\n' :: rest) = row :: lines rest := by
  rw [lines_append_feed, lines_of_one_line h, List.singleton_append]

theorem first_line_append {u : List Char} (hu : '\n' ∉ u) (bs : List Char) :
    firstLine (u ++ bs) = u ++ firstLine bs := by
  have hlines := lines_append u bs
  simp only [lastLine, lines_of_one_line hu] at hlines
  simp only [firstLine, hlines]
  rfl

theorem last_line_append {u : List Char} (hu : '\n' ∉ u) (as : List Char) :
    lastLine (as ++ u) = lastLine as ++ u := by
  have hlines := lines_append as u
  simp only [firstLine, lines_of_one_line hu] at hlines
  simp only [lastLine, hlines]
  simp

theorem first_line_row {row : List Char} (h : '\n' ∉ row) (rest : List Char) :
    firstLine (row ++ '\n' :: rest) = row := by
  rw [firstLine, lines_row h]
  rfl

theorem last_line_feed (as bs : List Char) : lastLine (as ++ '\n' :: bs) = lastLine bs := by
  rw [lastLine, lines_append_feed, List.getLast?_append,
    List.getLast?_eq_some_getLast (lines_ne_nil bs), Option.some_or, lastLine,
    List.getLast?_eq_some_getLast (lines_ne_nil bs)]

theorem first_line_of_feed {u : List Char} (hu : '\n' ∈ u) (bs : List Char) :
    firstLine (u ++ bs) = firstLine u := by
  obtain ⟨row, rest, rfl, hrow⟩ := List.eq_append_cons_of_mem hu
  rw [List.append_assoc, List.cons_append, first_line_row hrow, first_line_row hrow]

theorem last_line_of_feed {u : List Char} (hu : '\n' ∈ u) (as : List Char) :
    lastLine (as ++ u) = lastLine u := by
  obtain ⟨row, rest, rfl⟩ := List.append_of_mem hu
  rw [← List.append_assoc, last_line_feed, last_line_feed]

/-- How many lines of the text have ended. -/
def endedLines (cs : List Char) : Nat := (lines cs).length - 1

theorem ended_lines_append {u : List Char} (hu : '\n' ∉ u) (as : List Char) :
    endedLines (as ++ u) = endedLines as := by
  rw [endedLines, lines_append, lines_of_one_line hu, List.length_append, List.length_cons,
    List.length_dropLast, List.tail_cons]
  rfl

namespace Position

/-- The position at the end of a text. -/
def behind (cs : List Char) : Position := ⟨endedLines cs + 1, byteLength (lastLine cs)⟩

theorem after_behind (cs : List Char) (c : Char) : (behind cs).after c = behind (cs ++ [c]) := by
  by_cases hc : c = '\n'
  · have hlines := lines_append cs ['\n']
    rw [behind, behind, after, if_pos hc, hc]
    simp only [lastLine, endedLines, hlines]
    simp [lines, firstLine, byteLength]
  · have hline : '\n' ∉ [c] := by simpa using Ne.symm hc
    rw [behind, behind, after, if_neg hc, last_line_append hline, byte_length_append,
      ended_lines_append hline]
    rfl

theorem foldl_after (as bs : List Char) : bs.foldl after (behind as) = behind (as ++ bs) := by
  induction bs generalizing as with
  | nil => rw [List.foldl_nil, List.append_nil]
  | cons b bs ih => rw [List.foldl_cons, after_behind, ih, List.append_assoc, List.singleton_append]

theorem of_offset_append (as bs : List Char) : ofOffset (as ++ bs) (byteLength as) = behind as := by
  have hwalk := walk_append start as bs 0
  rw [Nat.add_zero, walk_zero] at hwalk
  rw [ofOffset, hwalk]
  exact foldl_after [] as

theorem behind_append {u : List Char} (hu : '\n' ∉ u) (as : List Char) :
    behind (as ++ u) = ⟨endedLines as + 1, byteLength (lastLine as) + byteLength u⟩ := by
  rw [behind, last_line_append hu, byte_length_append, ended_lines_append hu]

end Position

theorem line_of_append (as bs : List Char) :
    (lines (as ++ bs))[endedLines as]? = some (lastLine as ++ firstLine bs) := by
  have hindex : (lines as).dropLast.length = endedLines as := List.length_dropLast
  rw [lines_append, List.getElem?_append_right (Nat.le_of_eq hindex), hindex, Nat.sub_self,
    List.getElem?_cons_zero]

theorem line_of_part {u : List Char} (hu : '\n' ∉ u) (as bs : List Char) :
    (lines (as ++ u ++ bs))[endedLines as]? = some (lastLine as ++ u ++ firstLine bs) := by
  rw [List.append_assoc, line_of_append, first_line_append hu, List.append_assoc]

theorem without_return_behind {cs : List Char} (hne : cs ≠ []) (bs : List Char) :
    withoutReturn (bs ++ cs) = bs ++ withoutReturn cs := by
  rw [withoutReturn, withoutReturn, List.getLast?_append, List.getLast?_eq_some_getLast hne,
    Option.some_or]
  split
  · rw [List.dropLast_append_of_ne_nil hne]
  · rfl

theorem without_return_append {u : List Char} (hne : u ≠ []) (hu : '\r' ∉ u) (bs cs : List Char) :
    withoutReturn (bs ++ u ++ cs) = bs ++ u ++ withoutReturn cs := by
  by_cases hcs : cs = []
  · have hlast : (bs ++ u).getLast? ≠ some '\r' := by
      rw [List.getLast?_append, List.getLast?_eq_some_getLast hne, Option.some_or]
      intro h
      exact hu (Option.some.inj h ▸ List.getLast_mem hne)
    rw [hcs, List.append_nil, withoutReturn, if_neg hlast]
    simp [withoutReturn]
  · exact without_return_behind hcs (bs ++ u)

end ArmTokens
