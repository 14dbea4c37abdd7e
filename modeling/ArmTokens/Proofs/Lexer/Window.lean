import ArmTokens.Proofs.Lexer.LayOut
import ArmTokens.Proofs.Lexer.StringMode

/-!
# Windows between root checkpoints

At a root checkpoint no token waits and the mode is the bottom one. The text
between two checkpoints of a run has the tokens that the whole text has there.
Cut off behind the second checkpoint, only the look ahead for an open string
could decide differently, and then the string would still be open there.
-/

set_option autoImplicit false

namespace ArmTokens

/-- The run on the text gets to the offset with no token waiting and in the root mode. -/
def RootCheckpoint (text : String) (p : Nat) : Prop :=
  ∃ ts lx, Yields (Lexer.ofString text) ts lx ∧ lx.position = p ∧ lx.waiting = [] ∧
    lx.mode = .root

theorem Scans.cut {s s' : ModeStack} {w z : List Char} {ls : List Lexeme}
    (h : Scans s (w ++ z) ls s' z) (hs : s.Shallow) (hend : s' = .base) :
    Scans s w ls .base [] := by
  have hcut : Scans s (w ++ []) ls .base [] := by
    apply h.transfer hs hend _ rfl
    intro s w behind hway _
    rw [List.append_nil]
    apply match_at_cut hway.within
    intro hroot hn
    have hopen := hway.open_string (fun _ => at_line_end_nil) hroot hn
    rwa [List.append_nil] at hopen
  rwa [List.append_nil] at hcut

theorem root_checkpoint_iff {text : String} {p : Nat} :
    RootCheckpoint text p ↔
      ∃ ls rest, Scans .base text.toList ls .base rest ∧ byteLength (Lexeme.join ls) = p := by
  constructor
  · rintro ⟨ts, lx, h, rfl, hw, hroot⟩
    obtain ⟨ls, _, hscans, hpos⟩ := h.scans
    have hbase := (hscans.shallow (.inl rfl)).eq_base hroot
    rw [hbase] at hscans
    exact ⟨ls, lx.rest, hscans, by rw [hpos]; exact (Nat.zero_add _).symm⟩
  · rintro ⟨ls, rest, hscans, rfl⟩
    exact ⟨_, _, hscans.yields 0, Nat.zero_add _, rfl, rfl⟩

theorem root_checkpoint_zero (text : String) : RootCheckpoint text 0 :=
  ⟨[], Lexer.ofString text, .done _, rfl, rfl, rfl⟩

theorem scans_between {text : String} {p q : Nat} (hp : RootCheckpoint text p)
    (hq : RootCheckpoint text q) (hle : p ≤ q) :
    ∃ before ls rest, Scans .base text.toList before .base (Lexeme.join ls ++ rest) ∧
      Scans .base (Lexeme.join ls ++ rest) ls .base rest ∧
      byteLength (Lexeme.join before) = p ∧ p + byteLength (Lexeme.join ls) = q := by
  obtain ⟨before, rest₁, hbefore, hp⟩ := root_checkpoint_iff.mp hp
  obtain ⟨upto, rest, hupto, hq⟩ := root_checkpoint_iff.mp hq
  have hlen : rest.length ≤ rest₁.length := by
    by_cases hlong : rest.length ≤ rest₁.length
    · exact hlong
    · have hsame : Lexeme.join before ++ rest₁ = Lexeme.join upto ++ rest :=
        hbefore.join.trans hupto.join.symm
      have hlengths := congrArg List.length hsame
      rw [List.length_append, List.length_append] at hlengths
      obtain ⟨mid, hmid, hrest⟩ := part_of_append hsame (by omega)
      rw [hmid, byte_length_append] at hp
      have hnil : mid = [] := by
        apply List.eq_nil_of_length_eq_zero
        have := length_le_byte_length mid
        omega
      rw [hrest, hnil, List.nil_append] at hlong
      exact absurd (Nat.le_refl _) hlong
  obtain ⟨ls, rfl, hls⟩ := hbefore.rest hupto hlen
  rw [join_append, byte_length_append, hp] at hq
  rw [← hls.join] at hbefore hls
  exact ⟨before, ls, rest, hbefore, hls, hp, hq⟩

theorem lex_of_checkpoint {ls : List Lexeme} {rest : List Char}
    (h : Scans .base (Lexeme.join ls ++ rest) ls .base rest) :
    lex (String.ofList (Lexeme.join ls)) = Lexeme.layOut 0 ls := by
  have hcut := h.cut (.inl rfl) rfl
  apply lex_of_scans (s := .base)
  rw [String.toList_ofList]
  exact hcut

theorem window_tokens {text : String} {p q : Nat} (hp : RootCheckpoint text p)
    (hq : RootCheckpoint text q) (hle : p ≤ q) :
    ∃ w, slice? text.toList p q = some w ∧
      (lex text).filter (fun t => p ≤ t.start ∧ t.finish ≤ q) =
        (lex (String.ofList w)).map (Token.shift p) := by
  obtain ⟨before, ls, rest, hbefore, hls, hp, hq⟩ := scans_between hp hq hle
  obtain ⟨behind, s, hbehind⟩ := Scans.exists_end .base rest
  have hall := (hbefore.append hls).append hbehind
  refine ⟨Lexeme.join ls, ?_, ?_⟩
  · rw [← hbefore.join, ← List.append_assoc, ← hp, ← hq, ← hp]
    exact slice_append _ _ _
  · rw [lex_of_scans hall, filter_lay_out before ls behind hall.text_ne_nil hp hq,
      lex_of_checkpoint hls, ← lay_out_shift, Nat.zero_add]

theorem lex_split {text : String} {p : Nat} (hp : RootCheckpoint text p) :
    ∃ left right, splitAtByte? p text.toList = some (left, right) ∧
      lex text = lex (String.ofList left) ++ (lex (String.ofList right)).map (Token.shift p) := by
  obtain ⟨ls, rest, hls, hp⟩ := root_checkpoint_iff.mp hp
  obtain ⟨behind, s, hbehind⟩ := Scans.exists_end .base rest
  have hjoin := hls.join
  rw [← hjoin] at hls
  have hright : lex (String.ofList rest) = Lexeme.layOut 0 behind := by
    apply lex_of_scans (s := s)
    rw [String.toList_ofList]
    exact hbehind
  refine ⟨Lexeme.join ls, rest, ?_, ?_⟩
  · rw [← hjoin, ← hp]
    exact split_at_byte_append _ _
  · have hall := hls.append hbehind
    rw [hjoin] at hall
    rw [lex_of_scans hall, Lexeme.lay_out_append, hp, lex_of_checkpoint hls, hright,
      ← lay_out_shift]

theorem lex_token {text : String} {t : Token} (ht : t ∈ lex text)
    (hstart : RootCheckpoint text t.start) (hfinish : RootCheckpoint text t.finish) :
    lex t.text = [⟨t.text, ⟨0, t.span.len⟩, t.category⟩] := by
  obtain ⟨ls, s, hls⟩ := Scans.exists_end .base text.toList
  have hlex := lex_of_scans hls
  rw [hlex] at ht
  obtain ⟨before, l, behind, rfl, rfl⟩ := mem_lay_out ht
  rw [start_token, Nat.zero_add] at hstart
  rw [finish_token, Nat.zero_add] at hfinish
  obtain ⟨w, hslice, hwindow⟩ := window_tokens hstart hfinish (Nat.le_add_right _ _)
  have hw : w = l.text := by
    rw [← hls.join, List.append_nil, join_append, join_cons, ← List.append_assoc] at hslice
    rw [slice_append] at hslice
    exact (Option.some.inj hslice).symm
  have hone : Lexeme.join [l] = l.text := List.append_nil l.text
  have hls : Scans .base text.toList (before ++ [l] ++ behind) s [] := by simpa using hls
  have honly := filter_lay_out before [l] behind hls.text_ne_nil rfl rfl
  rw [← lex_of_scans hls, hone, hwindow, hw] at honly
  obtain ⟨u, hu, hshift⟩ := List.map_eq_singleton_iff.mp honly
  have htext := congrArg Token.text hshift
  have hspan := congrArg Token.span hshift
  have hcategory := congrArg Token.category hshift
  obtain ⟨text', ⟨offset, len⟩, category⟩ := u
  simp only [Token.shift, Lexeme.token, Span.mk.injEq] at htext hspan hcategory
  obtain ⟨hoffset, hlen⟩ := hspan
  have hzero : offset = 0 := by omega
  rw [htext, hcategory, hlen, hzero] at hu
  exact hu

/-- The text between two checkpoints lexes to the tokens that the whole text has there. So
the tokens before and behind a checkpoint do not depend on each other, and a token between
two checkpoints lexes alone to itself. -/
theorem lex_root_windows (text : String) :
    RootCheckpoint text 0 ∧
    (∀ p q, RootCheckpoint text p → RootCheckpoint text q → p ≤ q →
      ∃ w, slice? text.toList p q = some w ∧
        (lex text).filter (fun t => p ≤ t.start ∧ t.finish ≤ q) =
          (lex (String.ofList w)).map (Token.shift p)) ∧
    (∀ p, RootCheckpoint text p →
      ∃ left right, splitAtByte? p text.toList = some (left, right) ∧
        lex text =
          lex (String.ofList left) ++ (lex (String.ofList right)).map (Token.shift p)) ∧
    (∀ t ∈ lex text, RootCheckpoint text t.start → RootCheckpoint text t.finish →
      lex t.text = [⟨t.text, ⟨0, t.span.len⟩, t.category⟩]) := by
  refine ⟨root_checkpoint_zero text, ?_, ?_, ?_⟩
  · intro p q hp hq hle
    exact window_tokens hp hq hle
  · intro p hp
    exact lex_split hp
  · intro t ht hstart hfinish
    exact lex_token ht hstart hfinish

theorem lex_root_windows_escape :
    RootCheckpoint "\"a\" '\\n'#1" 4 ∧ RootCheckpoint "\"a\" '\\n'#1" 8 ∧
    ∃ w, slice? "\"a\" '\\n'#1".toList 4 8 = some w ∧
      (lex "\"a\" '\\n'#1").filter (fun t => 4 ≤ t.start ∧ t.finish ≤ 8) =
        (lex (String.ofList w)).map (Token.shift 4) := by
  have hstart : RootCheckpoint "\"a\" '\\n'#1" 4 :=
    ⟨_, _, Yields.take 4 _, by decide, by decide, by decide⟩
  have hend : RootCheckpoint "\"a\" '\\n'#1" 8 :=
    ⟨_, _, Yields.take 7 _, by decide, by decide, by decide⟩
  exact ⟨hstart, hend, (lex_root_windows _).2.1 4 8 hstart hend (by decide)⟩

end ArmTokens
