import ArmTokens.Proofs.Bytes.Pattern
import ArmTokens.Proofs.Lexer.Run

/-!
# A lexer that goes by byte offsets

The scanner keeps its whole input and a byte offset into it. It cuts the input
at that offset for each match, and once more for each token. Here every cut,
sum, difference and check that could go wrong is a fault. The main statement
says that on an input shorter than the word limit the scanner takes the same
steps as the lexer, and none of them faults.
-/

set_option autoImplicit false

namespace ArmTokens

structure Scanner where
  input : List Char
  position : Nat
  modes : ModeStack
  waiting : List Token
  deriving DecidableEq, Repr

namespace Scanner

def ofString (text : String) : Scanner := ⟨text.toList, 0, .base, []⟩

def firstMatch? : List Rule → List Char → Except Fault (Option Match)
  | [], _ => return none
  | r :: rs, cs => do
    match ← r.pattern.matchBytes? cs with
    | some n => return some ⟨n, r.action⟩
    | none => firstMatch? rs cs

def emit (s : Scanner) (len : Nat) (category : Category) : Except Fault Scanner := do
  let stop ← plus s.position len
  match slice? s.input s.position stop with
  | none => throw (.range .offBoundary)
  | some text =>
    match Span.ofBounds s.position stop with
    | .error e => throw (.range e)
    | .ok span =>
      return { s with
        position := stop
        waiting := s.waiting ++ [⟨String.ofList text, span, category⟩] }

def act (s : Scanner) (len : Nat) (text : List Char) : Action → Except Fault Scanner
  | .emit c => s.emit len c
  | .word => s.emit len (wordCategory text)
  | .symbols => s.emit len (symbolCategory text)
  | .bracket => s.emit len (bracketCategory text)
  | .quoted quote body => do
    let opened ← s.emit 1 quote
    if len < 2 then throw .quotesOverlap
    let inside ← opened.emit (len - 2) body
    inside.emit 1 quote
  | .enter c m => do
    let passed ← s.emit len c
    return { passed with modes := passed.modes.push m }
  | .leave c => do
    let passed ← s.emit len c
    return { passed with modes := passed.modes.pop.2 }

def step? (s : Scanner) : Except Fault (Option Scanner) := do
  let rest ← dropBytes s.position s.input
  match rest with
  | [] => return none
  | first :: _ =>
    let found ← firstMatch? s.modes.current.rules rest
    let m := found.getD ⟨first.utf8Size, .emit .invalid⟩
    if m.length = 0 then throw .emptyMatch
    let (text, _) ← cutAt m.length rest
    return some (← s.act m.length text m.action)

def pop? (s : Scanner) : Option (Token × Scanner) :=
  match s.waiting with
  | [] => none
  | t :: ts => some (t, { s with waiting := ts })

def next? (s : Scanner) : Except Fault (Option (Token × Scanner)) := do
  if s.waiting.isEmpty then
    match ← s.step? with
    | none => return none
    | some s' => return s'.pop?
  else return s.pop?

def take : Nat → Scanner → Except Fault (List Token × Scanner)
  | 0, s => return ([], s)
  | n + 1, s => do
    match ← s.next? with
    | none => return ([], s)
    | some (t, s') =>
      let (ts, last) ← take n s'
      return (t :: ts, last)

/-- The scanner that has passed `done` where the lexer stands. -/
def after (done : List Char) (lx : Lexer) : Scanner :=
  ⟨done ++ lx.rest, byteLength done, lx.modes, lx.waiting⟩

theorem first_match_bytes {cs : List Char} (rules : List Rule) (h : byteLength cs < offsetLimit) :
    firstMatch? rules cs = .ok ((ArmTokens.firstMatch? rules cs).map fun m =>
      ⟨byteLength (cs.take m.length), m.action⟩) := by
  induction rules with
  | nil => rfl
  | cons r rules ih =>
    rw [firstMatch?, match_bytes r.pattern h, ok_bind, ArmTokens.firstMatch?,
      List.findSome?_cons, Rule.match?]
    cases r.pattern.matchLength? cs with
    | none => exact ih
    | some n => rfl

theorem emit_ok (done text rest : List Char) (modes : ModeStack) (waiting : List Token)
    (h : byteLength done + byteLength text < offsetLimit) (c : Category) :
    emit ⟨done ++ text ++ rest, byteLength done, modes, waiting⟩ (byteLength text) c =
      .ok ⟨done ++ text ++ rest, byteLength (done ++ text), modes,
        waiting ++ [Lexeme.token ⟨text, c⟩ (byteLength done)]⟩ := by
  simp only [emit, plus_ok h, ok_bind, slice_append, Span.ofBounds]
  rw [if_pos (Nat.le_add_right _ _), byte_length_append]
  simp [Lexeme.token]

theorem act_ok (done text rest : List Char) (modes : ModeStack)
    (h : byteLength done + byteLength text < offsetLimit) (a : Action)
    (hq : ∀ quote body, a = .quoted quote body → ∃ inner, text = '\'' :: (inner ++ ['\''])) :
    act ⟨done ++ text ++ rest, byteLength done, modes, []⟩ (byteLength text) text a =
      .ok ⟨done ++ text ++ rest, byteLength (done ++ text), a.modes modes,
        Lexeme.layOut (byteLength done) (a.lexemes text)⟩ := by
  cases a with
  | quoted quote body =>
    obtain ⟨inner, rfl⟩ := hq quote body rfl
    have hone : byteLength ['\''] = 1 := by decide
    have hlen : byteLength ('\'' :: (inner ++ ['\''])) = byteLength inner + 2 := by
      rw [← List.singleton_append, byte_length_append, byte_length_append, hone]
      omega
    rw [hlen] at h
    have hopen := emit_ok done ['\''] (inner ++ ['\''] ++ rest) modes []
      (by rw [hone]; omega) quote
    have hinner := emit_ok (done ++ ['\'']) inner (['\''] ++ rest) modes
      [Lexeme.token ⟨['\''], quote⟩ (byteLength done)]
      (by rw [byte_length_append, hone]; omega) body
    have hclose := emit_ok (done ++ ['\''] ++ inner) ['\''] rest modes
      [Lexeme.token ⟨['\''], quote⟩ (byteLength done),
        Lexeme.token ⟨inner, body⟩ (byteLength (done ++ ['\'']))]
      (by rw [byte_length_append, byte_length_append, hone]; omega) quote
    simp only [hone, List.append_assoc, List.cons_append, List.nil_append] at hopen hinner hclose
    have hlong : ¬ byteLength inner + 2 < 2 := by omega
    simp only [act, hlen, List.append_assoc, List.cons_append, List.nil_append, hopen, ok_bind,
      if_neg hlong, Nat.add_sub_cancel, hinner, hclose]
    have hcons : byteLength ('\'' :: inner) = 1 + byteLength inner := by
      rw [← List.singleton_append, byte_length_append, hone]
    simp [Action.lexemes, Action.modes, Lexeme.layOut, hone, hcons, Nat.add_assoc]
  | enter c m => rw [act, emit_ok _ _ _ _ _ h, ok_bind]; rfl
  | leave c => rw [act, emit_ok _ _ _ _ _ h, ok_bind]; rfl
  | _ => exact emit_ok _ _ _ _ _ h _

theorem match_length_pos {mode : Mode} {cs : List Char} (hcs : cs ≠ []) :
    byteLength (cs.take (matchAt mode cs).length) ≠ 0 := by
  have hpos := match_at_pos mode cs
  have hle := length_le_byte_length (cs.take (matchAt mode cs).length)
  have hlen := List.length_pos_iff.mpr hcs
  rw [List.length_take] at hle
  omega

theorem found_eq (mode : Mode) {first : Char} {cs : List Char}
    (h : byteLength (first :: cs) < offsetLimit) :
    ∃ found, firstMatch? mode.rules (first :: cs) = .ok found ∧
      found.getD ⟨first.utf8Size, .emit .invalid⟩ =
        ⟨byteLength ((first :: cs).take (matchAt mode (first :: cs)).length),
          (matchAt mode (first :: cs)).action⟩ := by
  refine ⟨_, first_match_bytes mode.rules h, ?_⟩
  rw [matchAt]
  cases ArmTokens.firstMatch? mode.rules (first :: cs) with
  | none => simp [byteLength]
  | some m => rfl

theorem step_bytes {done : List Char} {lx : Lexer} (hw : lx.waiting = [])
    (hpos : lx.position = byteLength done) (h : byteLength (done ++ lx.rest) < offsetLimit) :
    (after done lx).step? =
      .ok (lx.step?.map (after (done ++ lx.rest.take (matchAt lx.mode lx.rest).length))) := by
  obtain ⟨rest, position, modes, waiting⟩ := lx
  simp only at hw hpos h
  subst hw hpos
  rw [step?, after, drop_bytes_append, ok_bind]
  cases rest with
  | nil => rfl
  | cons first cs =>
    have hne : first :: cs ≠ [] := by simp
    rw [byte_length_append] at h
    obtain ⟨found, hfound, hm⟩ :=
      found_eq modes.current (show byteLength (first :: cs) < offsetLimit by omega)
    have hsplit :=
      byte_length_take_add_drop (matchAt modes.current (first :: cs)).length (first :: cs)
    have hact := act_ok done ((first :: cs).take (matchAt modes.current (first :: cs)).length)
      ((first :: cs).drop (matchAt modes.current (first :: cs)).length) modes (by omega)
      (matchAt modes.current (first :: cs)).action
      (fun quote body hq => by
        obtain ⟨inner, _, hinner⟩ := quoted_text hq
        exact ⟨inner, hinner⟩)
    rw [List.append_assoc, List.take_append_drop] at hact
    simp only [hfound, ok_bind, hm, if_neg (match_length_pos hne), cut_at_take, hact]
    simp [step_eq, Lexer.passed, Lexer.matched, Lexer.mode, after, List.append_assoc]

/-- The scanner stands where the lexer stands, and both have the same text before them. -/
structure Follows (text done : List Char) (lx : Lexer) : Prop where
  whole : done ++ lx.rest = text
  offset : lx.position = byteLength done

theorem next_bytes_none {text done : List Char} {lx : Lexer} (hf : Follows text done lx)
    (h : byteLength text < offsetLimit) (hn : lx.next? = none) :
    (after done lx).next? = .ok none := by
  have hw : lx.waiting = [] := by
    cases hw : lx.waiting with
    | nil => rfl
    | cons t ts => simp [Lexer.next?, hw, Lexer.pop?] at hn
  have hstep : lx.step? = none := by
    cases hs : lx.step? with
    | none => rfl
    | some mid =>
      have hne : lx.rest ≠ [] := by
        intro hnil
        simp [Lexer.step?, hnil] at hs
      obtain ⟨t, ts, hts⟩ := List.exists_cons_of_ne_nil (matched_ne_nil lx)
      simp [Lexer.next?, hw, step_eq hne, hts, Lexer.pop?] at hn
  have hb := step_bytes hw hf.offset (hf.whole ▸ h)
  rw [hstep] at hb
  simp [next?, after, hw] at hb ⊢
  rw [hb]
  rfl

theorem next_bytes_some {text done : List Char} {lx lx' : Lexer} {t : Token}
    (hf : Follows text done lx) (h : byteLength text < offsetLimit)
    (hn : lx.next? = some (t, lx')) :
    ∃ done', (after done lx).next? = .ok (some (t, after done' lx')) ∧ Follows text done' lx' := by
  rcases next_cases hn with ⟨us, hw, rfl⟩ | ⟨hw, hne, us, hus, rfl⟩
  · refine ⟨done, ?_, hf.whole, hf.offset⟩
    simp [next?, after, hw, pop?]
  · have hb := step_bytes hw hf.offset (hf.whole ▸ h)
    rw [step_eq hne] at hb
    refine ⟨done ++ lx.rest.take (matchAt lx.mode lx.rest).length, ?_, ?_, ?_⟩
    · simp [next?, after, hw] at hb ⊢
      rw [hb]
      simp [hus, pop?]
    · rw [← hf.whole, List.append_assoc]
      exact congrArg (done ++ ·) (List.take_append_drop _ _)
    · rw [byte_length_append, ← hf.offset]
      rfl

/-- However many tokens are asked for, the scanner hands out those of the lexer. -/
theorem take_bytes {text : List Char} (h : byteLength text < offsetLimit) (n : Nat)
    {done : List Char} {lx : Lexer} (hf : Follows text done lx) :
    ∃ last, (after done lx).take n = .ok (lx.tokens.take n, last) ∧
      (lx.tokens.length ≤ n → last.next? = .ok none) := by
  induction n generalizing done lx with
  | zero =>
    refine ⟨after done lx, rfl, ?_⟩
    intro hlen
    apply next_bytes_none hf h
    cases hn : lx.next? with
    | none => rfl
    | some p =>
      rw [Lexer.tokens_of_next_eq_some hn] at hlen
      simp at hlen
  | succ n ih =>
    cases hn : lx.next? with
    | none =>
      have hb := next_bytes_none hf h hn
      rw [Lexer.tokens_of_next_eq_none hn]
      exact ⟨after done lx, by rw [take, hb]; rfl, fun _ => hb⟩
    | some p =>
      obtain ⟨t, lx'⟩ := p
      obtain ⟨done', hb, hf'⟩ := next_bytes_some hf h hn
      obtain ⟨last, htake, hend⟩ := ih hf'
      rw [Lexer.tokens_of_next_eq_some hn]
      refine ⟨last, ?_, ?_⟩
      · rw [take, hb, ok_bind]
        simp only [htake]
        rfl
      · intro hlen
        exact hend (Nat.le_of_succ_le_succ hlen)

end Scanner

end ArmTokens
