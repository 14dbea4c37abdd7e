import ArmTokens.Proofs.Bytes.Scanner
import ArmTokens.Proofs.Lexer.LayOut

/-!
# Tokens partition the text

Read by byte offsets, every text below the size limit is read to its end without
a fault. Its tokens begin at offset zero, each begins where the one before it
ends, and the last one ends with the text. Each covers whole characters, at
least one, and has just the text it covers.
-/

set_option autoImplicit false

namespace ArmTokens

/-- Two to the power of 63. A text in memory is shorter. -/
def textLimit : Nat := 9223372036854775808

structure Partition (text : String) (ts : List Token) : Prop where
  first : ∀ t ∈ ts.head?, t.start = 0
  adjacent : ∀ before t u behind, ts = before ++ t :: u :: behind → t.stop = .ok u.start
  last : ∀ t ∈ ts.getLast?, t.stop = .ok text.utf8ByteSize
  nonempty : ∀ t ∈ ts, t.text ≠ "" ∧ t.span.isEmpty = false
  boundary : ∀ t ∈ ts, String.Pos.Raw.IsValid text ⟨t.start⟩ ∧
    ∃ n, t.stop = .ok n ∧ String.Pos.Raw.IsValid text ⟨n⟩
  covers : ∀ t ∈ ts, t.span.slice? text = .ok (some t.text)
  whole : String.join (ts.map Token.text) = text
  none_iff : ts = [] ↔ text = ""

theorem valid_of_append {text : String} (as bs : List Char) (h : text.toList = as ++ bs) :
    String.Pos.Raw.IsValid text ⟨byteLength as⟩ := by
  rw [String.Pos.Raw.isValid_iff_exists_append]
  refine ⟨String.ofList as, String.ofList bs, ?_, ?_⟩
  · rw [← String.ofList_append, ← h, String.ofList_toList]
  · rw [byte_length_of_list]
    rfl

theorem slice_part {text : String} {as bs cs : List Char} (htext : text.toList = as ++ bs ++ cs)
    (hstop : Span.stop ⟨byteLength as, byteLength bs⟩ = .ok (byteLength as + byteLength bs)) :
    Span.slice? ⟨byteLength as, byteLength bs⟩ text = .ok (some (String.ofList bs)) := by
  rw [Span.slice?, Span.range, hstop, htext]
  simp only [pure_eq_ok, ok_bind]
  exact congrArg (fun r => Except.ok (r.map String.ofList)) (slice_append as bs cs)

theorem lay_out_eq_nil_iff {text : String} {ls : List Lexeme}
    (hjoin : Lexeme.join ls = text.toList) (hne : ∀ l ∈ ls, l.text ≠ []) :
    Lexeme.layOut 0 ls = [] ↔ text = "" := by
  constructor
  · intro h
    have hlen := congrArg List.length h
    rw [Lexeme.length_lay_out, List.length_nil] at hlen
    rw [List.eq_nil_of_length_eq_zero hlen] at hjoin
    exact String.toList_eq_nil_iff.mp hjoin.symm
  · rintro rfl
    cases ls with
    | nil => rfl
    | cons l ls =>
      rw [join_cons] at hjoin
      exact absurd (List.append_eq_nil_iff.mp hjoin).1 (hne l (by simp))

theorem partition_lay_out {text : String} {ls : List Lexeme} (hjoin : Lexeme.join ls = text.toList)
    (hne : ∀ l ∈ ls, l.text ≠ []) (hsize : text.utf8ByteSize < offsetLimit) :
    Partition text (Lexeme.layOut 0 ls) := by
  have hbytes : byteLength (Lexeme.join ls) = text.utf8ByteSize := by
    rw [hjoin, byte_length_to_list]
  have hstop : ∀ t ∈ Lexeme.layOut 0 ls, t.stop = .ok t.finish := by
    intro t ht
    have hb := lay_out_bounds ht
    exact Span.stop_eq_ok_iff.mpr ⟨rfl, show t.finish < offsetLimit by omega⟩
  refine ⟨?first, ?adjacent, ?last, ?nonempty, ?boundary, ?covers, ?whole, ?none_iff⟩
  case first =>
    intro t ht
    exact head_lay_out ht
  case adjacent =>
    intro before t u behind h
    rw [hstop t (by simp [h]), adjacent_lay_out h]
  case last =>
    intro t ht
    rw [hstop t (List.mem_of_getLast? ht), last_lay_out ht, hbytes, Nat.zero_add]
  case nonempty =>
    intro t ht
    obtain ⟨as, l, bs, hl, _, rfl⟩ := token_place hjoin ht
    have hpos := byte_length_pos (hne l hl)
    constructor
    · intro htext
      exact hne l hl (String.ofList_eq_empty_iff.mp htext)
    · simp only [Lexeme.token, Span.isEmpty, beq_eq_false_iff_ne]
      omega
  case boundary =>
    intro t ht
    rw [hstop t ht]
    obtain ⟨as, l, bs, _, htext, rfl⟩ := token_place hjoin ht
    refine ⟨valid_of_append as (l.text ++ bs) (by rw [htext, List.append_assoc]), _, rfl, ?_⟩
    rw [finish_token, ← byte_length_append]
    exact valid_of_append _ bs htext
  case covers =>
    intro t ht
    have hstop := hstop t ht
    obtain ⟨as, l, bs, _, htext, rfl⟩ := token_place hjoin ht
    exact slice_part htext hstop
  case whole => rw [texts_lay_out, hjoin, String.ofList_toList]
  case none_iff => exact lay_out_eq_nil_iff hjoin hne

/-- The scanner reads every text to its end, and its tokens partition the text. -/
theorem lex_partition (text : String) (h : text.utf8ByteSize < textLimit) :
    (∀ n, ∃ last, (Scanner.ofString text).take n = .ok ((lex text).take n, last) ∧
      ((lex text).length ≤ n → last.next? = .ok none)) ∧
    Partition text (lex text) := by
  have hsize : text.utf8ByteSize < offsetLimit := by
    unfold offsetLimit
    unfold textLimit at h
    omega
  constructor
  · intro n
    have hfollows : Scanner.Follows text.toList [] (Lexer.ofString text) := ⟨rfl, rfl⟩
    have hbytes : byteLength text.toList < offsetLimit := by rwa [byte_length_to_list]
    exact Scanner.take_bytes hbytes n hfollows
  · obtain ⟨ls, s, hscans⟩ := Scans.exists_end .base text.toList
    rw [lex_of_scans hscans]
    refine partition_lay_out ?_ hscans.text_ne_nil hsize
    rw [← hscans.join, List.append_nil]

theorem lex_partition_truncated_escape :
    "'\\x4é'\"\\u12\"é\n".utf8ByteSize < textLimit ∧
    (∀ n, ∃ last, (Scanner.ofString "'\\x4é'\"\\u12\"é\n").take n =
        .ok ((lex "'\\x4é'\"\\u12\"é\n").take n, last) ∧
      ((lex "'\\x4é'\"\\u12\"é\n").length ≤ n → last.next? = .ok none)) ∧
    Partition "'\\x4é'\"\\u12\"é\n" (lex "'\\x4é'\"\\u12\"é\n") :=
  ⟨by decide, lex_partition _ (by decide)⟩

end ArmTokens
