import ArmTokens.Command
import ArmTokens.Proofs.Diagnostic.OneLine
import ArmTokens.Proofs.Lexer.LayOut
import ArmTokens.Proofs.Pattern.Locality

/-!
# What a check points at

No malformed token holds a line end, so each one stands on a line of the text,
and its diagnostic shows that line with carets below the token. A check writes
these diagnostics in the order of the text and then, if there is one, their
number.
-/

set_option autoImplicit false

namespace ArmTokens

theorem subset_of_mem_lexemes {a : Action} {text : List Char} {l : Lexeme}
    (hl : l ∈ a.lexemes text) : ∀ c ∈ l.text, c ∈ text := by
  intro c hc
  rw [← a.join_lexemes text]
  exact List.mem_flatMap.mpr ⟨l, hl, hc⟩

theorem on_line_of_malformed {mode : Mode} {r : Rule} (hr : r ∈ mode.rules) {c : Category}
    (hc : c ∈ r.action.categories) (hbad : c.isMalformed = true) :
    r.pattern.crossesLines = false := by
  have hall : ∀ mode : Mode, ∀ r ∈ mode.rules, ∀ c ∈ r.action.categories,
      c.isMalformed = true → r.pattern.crossesLines = false := by
    intro mode
    cases mode <;> decide
  exact hall mode r hr c hc hbad

theorem malformed_lexeme_on_line (mode : Mode) (cs : List Char) (hne : cs ≠ []) (l : Lexeme)
    (hl : l ∈ (matchAt mode cs).action.lexemes (cs.take (matchAt mode cs).length)) :
    l.category.isMalformed = true → ∀ c ∈ l.text, isLineEnd c = false := by
  intro hbad c hc
  have hmem := subset_of_mem_lexemes hl c hc
  rcases match_at_cases mode cs with ⟨r, hr, hn, hact⟩ | ⟨hnone, hm⟩
  · have hcat := category_mem hl
    rw [hact] at hcat
    exact Pattern.on_one_line (on_line_of_malformed hr hcat hbad) _ _ hn c hmem
  · -- A line end would have matched, so the single character is none.
    obtain ⟨d, tail, rfl⟩ := List.exists_cons_of_ne_nil hne
    rw [hm] at hmem
    obtain rfl : c = d := List.mem_singleton.mp hmem
    rw [← Bool.not_eq_true]
    intro hline
    obtain ⟨r, hr, hsome⟩ := exists_line_end_rule mode hline tail
    exact hsome (hnone r hr)

/-- The token stands on one line of the text, between `before` and `after` as the line is
shown, and its diagnostic has its carets below it. -/
structure PointedAt [ColumnWidth] (text : String) (t : Token) (above : Nat)
    (before after : List Char) : Prop where
  one_line : ∀ c ∈ t.text.toList, c ≠ '\n' ∧ c ≠ '\r'
  start : Position.ofOffset text.toList t.start = ⟨above + 1, byteLength before⟩
  stop : ∃ n, t.stop = .ok n ∧ (Position.ofOffset text.toList n).line = above + 1
  line : ∃ raw, (lines text.toList)[above]? = some raw ∧
    withoutReturn raw = before ++ t.text.toList ++ after
  covers : slice? (before ++ t.text.toList ++ after) (byteLength before)
    (byteLength before + t.span.len) = some t.text.toList
  excerpt : excerpts text.toList t.span t.category.complaint.toList =
    .ok [partExcerpt (above + 1) before t.text.toList after t.category.complaint.toList]
  diagnostic : ∀ name, diagnose name text t = .ok (String.ofList (headline "while lexing" name ++
    pointer (above + 1) before t.text.toList after t.category.complaint.toList))

theorem pointed_at [ColumnWidth] {text : String} {before behind : List Char} {l : Lexeme}
    (h : Part text.toList before l.text behind)
    (hstop : byteLength before + byteLength l.text < offsetLimit) :
    PointedAt text (l.token (byteLength before)) (endedLines before) (lastLine before)
      (withoutReturn (firstLine behind)) := by
  have htext : (l.token (byteLength before)).text.toList = l.text := String.toList_ofList
  constructor
  case one_line =>
    rw [htext]
    intro c hc
    exact ⟨fun hfeed => h.no_feed (hfeed ▸ hc), fun hreturn => h.no_return (hreturn ▸ hc)⟩
  case start => exact h.start
  case stop =>
    refine ⟨_, Span.stop_eq_ok_iff.mpr ⟨rfl, hstop⟩, ?_⟩
    exact congrArg Position.line h.stop
  case line =>
    rw [htext]
    exact ⟨_, h.line, without_return_append h.nonempty h.no_return _ _⟩
  case covers =>
    rw [htext]
    exact slice_append _ _ _
  case excerpt =>
    rw [htext]
    exact h.excerpts hstop _
  case diagnostic =>
    intro name
    rw [htext]
    exact h.render hstop name "while lexing" l.category.complaint

theorem map_m_ok {ε α β : Type} {f : α → Except ε β} {as : List α}
    (h : ∀ a ∈ as, ∃ b, f a = .ok b) :
    ∃ bs, as.map f = bs.map .ok ∧ as.mapM f = .ok bs := by
  induction as with
  | nil => exact ⟨[], rfl, rfl⟩
  | cons a as ih =>
    obtain ⟨b, hb⟩ := h a List.mem_cons_self
    obtain ⟨bs, hmap, hbs⟩ := ih fun x hx => h x (List.mem_cons_of_mem a hx)
    refine ⟨b :: bs, by rw [List.map_cons, List.map_cons, hb, hmap], ?_⟩
    rw [List.mapM_cons, hb, hbs]
    rfl

theorem malformed_pointed_at [ColumnWidth] {text : String}
    (hsize : text.utf8ByteSize < offsetLimit) {t : Token} (ht : t ∈ lex text)
    (hbad : t.category.isMalformed = true) :
    ∃ above before after, PointedAt text t above before after := by
  obtain ⟨ls, s, hscans⟩ := Scans.exists_end .base text.toList
  have hjoin := hscans.join
  rw [List.append_nil] at hjoin
  rw [lex_of_scans hscans] at ht
  obtain ⟨before, l, behind, hl, htext, rfl⟩ := token_place hjoin ht
  have hpart : Part text.toList before l.text behind :=
    ⟨htext, hscans.text_ne_nil l hl, hscans.forall_lexeme malformed_lexeme_on_line l hl hbad⟩
  have hbytes := congrArg byteLength htext
  rw [byte_length_to_list, byte_length_append, byte_length_append] at hbytes
  exact ⟨_, _, _, pointed_at hpart (by omega)⟩

theorem malformed_iff (c : Category) : c.isMalformed = true ↔
    c ∈ [.invalid, .stringInvalid, .stringEscapeInvalid, .charInvalid] := by
  cases c <;> decide

theorem run_check [ColumnWidth] [PrintClass] {o : Options}
    {contents : Except ReadFailure ByteArray} {text : String} (hcheck : o.check = true)
    (hdecode : decode contents = .ok text) {diagnostics : List String}
    (h : (malformed text).mapM (diagnose o.sourceName text) = .ok diagnostics) :
    run o contents = .ok {
      stdout := ""
      stderr := String.join diagnostics ++ tally o.sourceName (malformed text).length
      success := (malformed text).isEmpty } := by
  have houtcome : check o.sourceName text = .ok {
      stdout := ""
      stderr := String.join diagnostics ++ tally o.sourceName (malformed text).length
      success := (malformed text).isEmpty } := by
    rw [check, h]
    rfl
  rw [run, hdecode, hcheck]
  show (check o.sourceName text).mapError Failure.range = _
  rw [houtcome]
  rfl

/-- Each malformed token stands on one line of its text, with its start and its end, and is
just what the line holds there. Its diagnostic shows the line and, below the token, carets over
its width, behind the columns that stand before it. A check writes these diagnostics in the
order of the text, and then their number and fails if there is one. -/
theorem check_malformed [ColumnWidth] [PrintClass] (text : String)
    (hsize : text.utf8ByteSize < offsetLimit) :
    (∀ c : Category, c.isMalformed = true ↔
      c ∈ [.invalid, .stringInvalid, .stringEscapeInvalid, .charInvalid]) ∧
    (∀ t ∈ lex text, t.category.isMalformed = true →
      ∃ above before after, PointedAt text t above before after) ∧
    (∀ o contents, o.check = true → decode contents = .ok text →
      ∃ (faults : List Token) (diagnostics : List String),
        faults = (lex text).filter (fun t => t.category.isMalformed) ∧
        faults.map (diagnose o.sourceName text) = diagnostics.map .ok ∧
        run o contents = .ok {
          stdout := ""
          stderr := String.join diagnostics ++
            if faults = [] then ""
            else String.ofList (decimal faults.length) ++ " malformed token(s) in " ++
              o.sourceName ++ "\n"
          success := faults.isEmpty }) := by
  refine ⟨malformed_iff, ?_, ?_⟩
  · intro t ht hbad
    exact malformed_pointed_at hsize ht hbad
  · intro o contents hcheck hdecode
    have hall : ∀ t ∈ malformed text, ∃ d, diagnose o.sourceName text t = .ok d := by
      intro t ht
      obtain ⟨hmem, hbad⟩ := List.mem_filter.mp ht
      obtain ⟨_, _, _, hpointed⟩ := malformed_pointed_at hsize hmem hbad
      exact ⟨_, hpointed.diagnostic o.sourceName⟩
    obtain ⟨diagnostics, hmap, hdiagnostics⟩ := map_m_ok hall
    refine ⟨malformed text, diagnostics, rfl, hmap, ?_⟩
    rw [run_check hcheck hdecode hdiagnostics]
    simp only [tally, List.length_eq_zero_iff]

theorem check_malformed_open_string :
    "\té\r\n\"日".utf8ByteSize < offsetLimit ∧
    (lex "\té\r\n\"日").filter (fun t => t.category.isMalformed) =
      [⟨"é", ⟨1, 2⟩, .invalid⟩, ⟨"\"日", ⟨5, 4⟩, .stringInvalid⟩] ∧
    (∃ above before after, PointedAt "\té\r\n\"日" ⟨"é", ⟨1, 2⟩, .invalid⟩ above before after) ∧
    (∃ above before after,
      PointedAt "\té\r\n\"日" ⟨"\"日", ⟨5, 4⟩, .stringInvalid⟩ above before after) ∧
    decode (.ok "\té\r\n\"日".toUTF8) = .ok "\té\r\n\"日" ∧
    run ⟨none, .plain, true⟩ (.ok "\té\r\n\"日".toUTF8) = .ok {
      stdout := ""
      stderr := "[error] while lexing at <stdin>\n1 | \té\n     ^ unexpected character\n" ++
        "[error] while lexing at <stdin>\n2 | \"日\n    ^^^ string is not closed on this line\n" ++
        "2 malformed token(s) in <stdin>\n"
      success := false } := by
  have hsize : "\té\r\n\"日".utf8ByteSize < offsetLimit := by decide
  have hdecode : decode (.ok "\té\r\n\"日".toUTF8) = .ok "\té\r\n\"日" := rfl
  have hlex : lex "\té\r\n\"日" = [⟨"\t", ⟨0, 1⟩, .whitespace⟩, ⟨"é", ⟨1, 2⟩, .invalid⟩,
      ⟨"\r\n", ⟨3, 2⟩, .whitespace⟩, ⟨"\"日", ⟨5, 4⟩, .stringInvalid⟩] := by
    have hend : ((Lexer.ofString "\té\r\n\"日").take 4).2.next? = none := by decide
    rw [lex, Yields.tokens_eq_take hend]
    decide
  have hfaults : (lex "\té\r\n\"日").filter (fun t => t.category.isMalformed) =
      [⟨"é", ⟨1, 2⟩, .invalid⟩, ⟨"\"日", ⟨5, 4⟩, .stringInvalid⟩] := by
    rw [hlex]
    rfl
  have hinvalid : diagnose "<stdin>" "\té\r\n\"日" ⟨"é", ⟨1, 2⟩, .invalid⟩ =
      .ok "[error] while lexing at <stdin>\n1 | \té\n     ^ unexpected character\n" := by
    have hpart : Part "\té\r\n\"日".toList ['\t'] ['é'] ['\r', '\n', '"', '日'] :=
      ⟨rfl, by decide, by simp [isLineEnd]⟩
    exact (hpart.render (by decide) "<stdin>" "while lexing" "unexpected character").trans
      (congrArg Except.ok (by decide +kernel))
  have hopen : diagnose "<stdin>" "\té\r\n\"日" ⟨"\"日", ⟨5, 4⟩, .stringInvalid⟩ =
      .ok ("[error] while lexing at <stdin>\n2 | \"日\n" ++
        "    ^^^ string is not closed on this line\n") := by
    have hpart : Part "\té\r\n\"日".toList ['\t', 'é', '\r', '\n'] ['"', '日'] [] :=
      ⟨rfl, by decide, by simp [isLineEnd]⟩
    exact (hpart.render (by decide) "<stdin>" "while lexing"
      "string is not closed on this line").trans (congrArg Except.ok (by decide +kernel))
  obtain ⟨_, hpointed, hrun⟩ := check_malformed "\té\r\n\"日" hsize
  obtain ⟨faults, diagnostics, rfl, hmap, houtcome⟩ :=
    hrun ⟨none, .plain, true⟩ _ rfl hdecode
  rw [hfaults] at hmap houtcome
  rw [List.map_cons, List.map_cons, List.map_nil, show Options.sourceName _ = "<stdin>" from rfl,
    hinvalid, hopen] at hmap
  obtain rfl := (List.map_inj_right fun _ _ => Except.ok.inj).mp
    (show List.map Except.ok [_, _] = _ from hmap)
  rw [hlex] at hpointed
  refine ⟨hsize, hfaults, hpointed _ (by decide) rfl, hpointed _ (by decide) rfl, hdecode, ?_⟩
  exact houtcome.trans (congrArg Except.ok (by decide +kernel))

end ArmTokens
