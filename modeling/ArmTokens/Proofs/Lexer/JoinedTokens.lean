import ArmTokens.Proofs.Lexer.Partition
import ArmTokens.Proofs.Span.Join

/-!
# The joined spans of tokens

Tokens in a row leave no gap, so the least span that covers them all goes from
the start of the first to the end of the last and has their texts in a row. On
the way to it a join may cover a gap that is filled by a later one.
-/

set_option autoImplicit false

namespace ArmTokens

open ArmTokens.Span

theorem lay_out_ne_nil {p : Nat} {ls : List Lexeme} (hne : ls ≠ []) : Lexeme.layOut p ls ≠ [] := by
  rw [← List.length_pos_iff, Lexeme.length_lay_out]
  exact List.length_pos_iff.mpr hne

/-- Lexemes laid out leave no gap: what covers each of them covers the span of their texts. -/
theorem least_cover_lay_out (p : Nat) {ls : List Lexeme} (hne : ls ≠ []) :
    LeastCover ⟨p, byteLength (Lexeme.join ls)⟩ ((Lexeme.layOut p ls).map Token.span) := by
  have hrow := lay_out_ne_nil (p := p) hne
  intro u
  rw [List.forall_mem_map]
  constructor
  · intro h t ht
    have hb := lay_out_bounds ht
    exact ⟨Nat.le_trans h.1 hb.1, Nat.le_trans hb.2 h.2⟩
  · intro h
    have hfirst := (h _ (List.head_mem hrow)).1
    have hlast := (h _ (List.getLast_mem hrow)).2
    have hstart := head_lay_out (List.head_mem_head? hrow)
    have hfinish := last_lay_out (List.getLast_mem_getLast? hrow)
    exact ⟨Nat.le_trans hfirst (Nat.le_of_eq hstart),
      Nat.le_trans (Nat.le_of_eq hfinish.symm) hlast⟩

theorem row_of_tokens {text : String} {before run behind : List Token}
    (hlex : lex text = before ++ run ++ behind) :
    ∃ as ls cs, text.toList = as ++ Lexeme.join ls ++ cs ∧
      run = Lexeme.layOut (byteLength as) ls := by
  obtain ⟨ls, hls, hjoin, _⟩ := exists_lexemes text
  obtain ⟨front, last, rfl, hfront, _⟩ := lay_out_cut (hls.symm.trans hlex)
  obtain ⟨first, mid, rfl, _, hrun⟩ := lay_out_cut hfront.symm
  rw [Nat.zero_add] at hrun
  rw [join_append, join_append] at hjoin
  exact ⟨_, mid, _, hjoin.symm, hrun⟩

/-- Joined in any order and grouping, the spans of a row of tokens give one span, from the start
of the first to the end of the last, and the text under it is their texts in a row. -/
theorem joined_tokens (text : String) (hsize : text.utf8ByteSize < offsetLimit)
    (before run behind : List Token) (hlex : lex text = before ++ run ++ behind) (hne : run ≠ [])
    (tree : JoinTree) (hparts : tree.parts.Perm (run.map Token.span)) :
    ∃ s, tree.value = .ok s ∧ s.offset = (run.head hne).start ∧
      s.stop = (run.getLast hne).stop ∧
      s.slice? text = .ok (some (String.join (run.map Token.text))) := by
  obtain ⟨as, ls, cs, htext, rfl⟩ := row_of_tokens hlex
  have hls : ls ≠ [] := fun hnil => hne (by rw [hnil]; rfl)
  have hcover := least_cover_lay_out (byteLength as) hls
  have hfits : Fits ⟨byteLength as, byteLength (Lexeme.join ls)⟩ := by
    have hbytes := congrArg byteLength htext
    rw [byte_length_append, byte_length_append, byte_length_to_list] at hbytes
    show byteLength as + byteLength (Lexeme.join ls) < offsetLimit
    omega
  have hpart : ∀ t ∈ Lexeme.layOut (byteLength as) ls, t.span.Fits := fun t ht =>
    ((hcover _).mp (covers_refl _) t.span (List.mem_map_of_mem ht)).fits hfits
  obtain ⟨s, hvalue, _, hs⟩ := tree.value_of_fits fun p hp => by
    obtain ⟨t, ht, rfl⟩ := List.mem_map.mp (hparts.mem_iff.mp hp)
    exact hpart t ht
  obtain rfl := (hs.perm hparts).unique hcover
  refine ⟨_, hvalue, ?start, ?stop, ?slice⟩
  case start => exact (head_lay_out (List.head_mem_head? hne)).symm
  case stop =>
    have hfinish := last_lay_out (List.getLast_mem_getLast? hne)
    rw [Token.stop, stop_of_fits hfits, stop_of_fits (hpart _ (List.getLast_mem hne))]
    exact congrArg Except.ok hfinish.symm
  case slice =>
    rw [texts_lay_out]
    exact slice_part htext (stop_of_fits hfits)

def gapTree : JoinTree :=
  .both (.both (.one ⟨6, 2⟩) (.one ⟨2, 1⟩)) (.both (.one ⟨5, 1⟩) (.one ⟨3, 2⟩))

def quotedRun : List Token :=
  [⟨"'", ⟨2, 1⟩, .char⟩, ⟨"\\n", ⟨3, 2⟩, .stringEscape⟩, ⟨"'", ⟨5, 1⟩, .char⟩,
    ⟨"é", ⟨6, 2⟩, .invalid⟩]

theorem joined_tokens_gap :
    "#1'\\n'é".utf8ByteSize < offsetLimit ∧
    lex "#1'\\n'é" = [⟨"#1", ⟨0, 2⟩, .immediateDec⟩] ++ quotedRun ++ [] ∧
    gapTree.parts.Perm (quotedRun.map Token.span) ∧
    ∃ s, gapTree.value = .ok s ∧ s.offset = (quotedRun.head (by decide)).start ∧
      s.stop = (quotedRun.getLast (by decide)).stop ∧
      s.slice? "#1'\\n'é" = .ok (some (String.join (quotedRun.map Token.text))) := by
  have hlex : lex "#1'\\n'é" = [⟨"#1", ⟨0, 2⟩, .immediateDec⟩] ++ quotedRun ++ [] := by
    decide +kernel
  have hperm : gapTree.parts.Perm (quotedRun.map Token.span) := by decide
  exact ⟨by decide, hlex, hperm, joined_tokens _ (by decide) _ _ _ hlex (by decide) gapTree hperm⟩

end ArmTokens
