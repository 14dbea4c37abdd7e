import Mathlib.Data.List.DropRight
import Mathlib.Data.Prod.Lex
import Mathlib.Data.Set.Function
import Mathlib.Order.Bounds.Basic
import ArmTokens.Proofs.Diagnostic.Safety

/-!
# Positions against the lines of a text

A position is found by a walk over the characters, and the lines of a text are
found by a cut at its line feeds. The two agree: the lines before that of a
position, each with its line feed, and the column take as many bytes as the text
up to the position. So a position tells the boundary that its offset was rounded
up to, and positions stand in the order of their offsets.
-/

set_option autoImplicit false

namespace ArmTokens

/-- The first boundary at or behind an offset, and the end of the text where there is none. -/
inductive RoundsUp (text : List Char) (offset : Nat) : Nat → Prop
  | boundary {p : Nat} (h : IsLeast {q | Boundary text q ∧ offset ≤ q} p) : RoundsUp text offset p
  | textEnd (h : ∀ q, Boundary text q → q < offset) : RoundsUp text offset (byteLength text)

theorem RoundsUp.unique {text : List Char} {offset p q : Nat} (hp : RoundsUp text offset p)
    (hq : RoundsUp text offset q) : p = q := by
  cases hp with
  | boundary hp =>
    cases hq with
    | boundary hq => exact hp.unique hq
    | textEnd hq => exact absurd hp.1.2 (Nat.not_le_of_lt (hq p hp.1.1))
  | textEnd hp =>
    cases hq with
    | boundary hq => exact absurd hq.1.2 (Nat.not_le_of_lt (hp q hq.1.1))
    | textEnd hq => rfl

theorem rounds_up_text_before (text : List Char) (offset : Nat) :
    RoundsUp text offset (byteLength (textBefore text offset)) := by
  by_cases h : offset ≤ byteLength (textBefore text offset)
  · refine .boundary ⟨⟨⟨_, text_before_start text offset, rfl⟩, h⟩, ?_⟩
    rintro q ⟨⟨as, has, rfl⟩, hoffset⟩
    obtain ⟨rest, hrest⟩ := text_before_least has hoffset
    rw [← hrest, byte_length_append]
    exact Nat.le_add_right _ _
  · have hwhole := text_before_eq_of_lt (Nat.lt_of_not_le h)
    rw [hwhole] at h ⊢
    refine .textEnd ?_
    rintro q ⟨as, ⟨rest, rfl⟩, rfl⟩
    rw [byte_length_append] at h
    omega

theorem rounds_up_iff {text : List Char} {offset p : Nat} :
    RoundsUp text offset p ↔ p = byteLength (textBefore text offset) := by
  constructor
  · intro h
    exact h.unique (rounds_up_text_before text offset)
  · rintro rfl
    exact rounds_up_text_before text offset

theorem rounds_up_of_boundary {text : List Char} {p : Nat} (h : Boundary text p) :
    RoundsUp text p p :=
  .boundary ⟨⟨h, Nat.le_refl p⟩, fun _ hq => hq.2⟩

theorem last_line_eq_rtake_while (cs : List Char) : lastLine cs = cs.rtakeWhile (· ≠ '\n') := by
  induction cs using List.reverseRecOn with
  | nil => rfl
  | append_singleton cs c ih =>
    by_cases hc : c = '\n'
    · rw [hc, last_line_feed, List.rtakeWhile_concat_neg _ _ _ (by simp)]
      rfl
    · rw [last_line_append (by simpa using Ne.symm hc), ih,
        List.rtakeWhile_concat_pos _ _ _ (by simpa using hc)]

def linesLength : List (List Char) → Nat
  | [] => 0
  | line :: others => byteLength line + 1 + linesLength others

theorem lines_length_add_last (cs : List Char) :
    linesLength (lines cs).dropLast + byteLength (lastLine cs) = byteLength cs := by
  induction cs with
  | nil => rfl
  | cons c cs ih =>
    obtain ⟨l, ls, h⟩ := exists_lines cs
    rw [lastLine, h] at ih
    rw [lastLine, lines, h, byteLength, ← ih]
    -- A line feed ends an empty line, any other character joins the first line.
    split
    · next hc =>
      have hsize : c.utf8Size = 1 := hc ▸ rfl
      simp only [List.dropLast_cons_cons, List.getLast?_cons_cons, linesLength, byteLength, hsize]
      omega
    · cases ls with
      | nil => simp [linesLength, byteLength]
      | cons m ms =>
        simp only [List.modifyHead_cons, List.dropLast_cons_cons, List.getLast?_cons_cons,
          linesLength, byteLength]
        omega

theorem take_lines_append (as bs : List Char) :
    (lines (as ++ bs)).take (endedLines as) = (lines as).dropLast := by
  have hlength : (lines as).dropLast.length = endedLines as := List.length_dropLast
  rw [lines_append, ← hlength, List.take_left]

theorem slice_start (as bs : List Char) : slice? (as ++ bs) 0 (byteLength as) = some as := by
  have hslice := slice_append [] as bs
  rwa [byteLength, Nat.zero_add] at hslice

namespace Position

/-- The offset of a column on a line: what the lines before it take, and the column. -/
def toOffset (text : List Char) (p : Position) : Nat :=
  linesLength ((lines text).take (p.line - 1)) + p.column

theorem to_offset_behind {text as : List Char} (h : as <+: text) :
    (behind as).toOffset text = byteLength as := by
  obtain ⟨bs, rfl⟩ := h
  rw [toOffset, behind, Nat.add_sub_cancel, take_lines_append, lines_length_add_last]

/-- The position of the end of a start of the text. Its line is counted by the line feeds and is a
line of the text, the lines give back the offset, and the column leaves on the line what stands
behind the last line feed. -/
structure Marks (text before : List Char) (offset : Nat) (p : Position) : Prop where
  before_offset : slice? text 0 offset = some before
  line_eq : p.line = 1 + before.count '\n'
  line_le : p.line ≤ (lines text).length
  offset_eq : p.toOffset text = offset
  on_line : ∃ line, (lines text)[p.line - 1]? = some line ∧
    slice? line 0 p.column = some (before.rtakeWhile (· ≠ '\n'))

theorem behind_marks {text as : List Char} (h : as <+: text) :
    (behind as).Marks text as (byteLength as) := by
  obtain ⟨tail, htail⟩ := line_of_start h
  constructor
  case before_offset =>
    obtain ⟨bs, rfl⟩ := h
    exact slice_start as bs
  case line_eq => rw [behind, ended_lines_eq_count, Nat.add_comm]
  case line_le => exact (List.getElem?_eq_some_iff.mp htail).1
  case offset_eq => exact to_offset_behind h
  case on_line =>
    rw [← last_line_eq_rtake_while]
    exact ⟨_, htail, slice_start (lastLine as) tail⟩

/-- A position as a pair that the line decides before the column does. -/
def inOrder (p : Position) : ℕ ×ₗ ℕ := toLex (p.line, p.column)

theorem behind_mono {as bs : List Char} (h : as <+: bs) :
    (behind as).inOrder ≤ (behind bs).inOrder := by
  rw [inOrder, inOrder, Prod.Lex.toLex_le_toLex]
  by_cases hline : endedLines as = endedLines bs
  · obtain ⟨tail, htail⟩ := last_line_mono h hline
    refine .inr ⟨congrArg (· + 1) hline, ?_⟩
    show byteLength (lastLine as) ≤ byteLength (lastLine bs)
    rw [← htail, byte_length_append]
    exact Nat.le_add_right _ _
  · have hcount := h.count_le '\n'
    rw [← ended_lines_eq_count, ← ended_lines_eq_count] at hcount
    exact .inl (Nat.succ_lt_succ (Nat.lt_of_le_of_ne hcount hline))

end Position

/-- The position of an offset marks where the offset is rounded up to. So it never falls back
while the offset grows, and different boundaries have different positions. -/
theorem position_inverts_lines (text : List Char) :
    (∀ offset, (∃ p, RoundsUp text offset p) ∧
      ∀ p, RoundsUp text offset p →
        ∃ before, (Position.ofOffset text offset).Marks text before p) ∧
    Monotone (fun offset => (Position.ofOffset text offset).inOrder) ∧
    Set.InjOn (Position.ofOffset text) {p | Boundary text p} := by
  have hmarks : ∀ {offset p : Nat}, RoundsUp text offset p →
      ∃ before, (Position.ofOffset text offset).Marks text before p := by
    intro offset p h
    rw [rounds_up_iff.mp h, Position.of_offset_eq]
    exact ⟨_, Position.behind_marks (text_before_start text offset)⟩
  refine ⟨fun offset => ⟨⟨_, rounds_up_text_before text offset⟩, fun p => hmarks⟩, ?_, ?_⟩
  · intro m n hmn
    show (Position.ofOffset text m).inOrder ≤ (Position.ofOffset text n).inOrder
    rw [Position.of_offset_eq, Position.of_offset_eq]
    exact Position.behind_mono (text_before_mono text hmn)
  · intro p hp q hq hpq
    obtain ⟨_, hp⟩ := hmarks (rounds_up_of_boundary hp)
    obtain ⟨_, hq⟩ := hmarks (rounds_up_of_boundary hq)
    rw [← hp.offset_eq, hpq, hq.offset_eq]

theorem position_inverts_lines_inside_character :
    RoundsUp "é\r\nx".toList 1 2 ∧
    (∃ before, (Position.ofOffset "é\r\nx".toList 1).Marks "é\r\nx".toList before 2) ∧
    3 ≤ 4 ∧ (Position.ofOffset "é\r\nx".toList 3).inOrder ≤
      (Position.ofOffset "é\r\nx".toList 4).inOrder ∧
    Boundary "é\r\nx".toList 3 ∧ Boundary "é\r\nx".toList 4 ∧
    Position.ofOffset "é\r\nx".toList 3 ≠ Position.ofOffset "é\r\nx".toList 4 := by
  have hround : RoundsUp "é\r\nx".toList 1 2 := rounds_up_iff.mpr rfl
  have hreturn : Boundary "é\r\nx".toList 3 := ⟨['é', '\r'], by decide, rfl⟩
  have hfeed : Boundary "é\r\nx".toList 4 := ⟨['é', '\r', '\n'], by decide, rfl⟩
  obtain ⟨hmarks, hmono, hinj⟩ := position_inverts_lines "é\r\nx".toList
  refine ⟨hround, (hmarks 1).2 2 hround, by decide, hmono (by decide), hreturn, hfeed, ?_⟩
  intro hpos
  exact absurd (hinj hreturn hfeed hpos) (by decide)

end ArmTokens
