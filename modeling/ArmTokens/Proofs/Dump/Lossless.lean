import ArmTokens.Dump
import ArmTokens.Proofs.Diagnostic.Position
import ArmTokens.Proofs.Dump.Quoted
import ArmTokens.Proofs.Lexer.Partition
import ArmTokens.Proofs.Span.Join
import ArmTokens.Text.Unicode

/-!
# Dumps lose nothing

Every field of a token tells where it ends: a number in front of the sign behind
it, a tag in front of the blank, a text at its closing quote. So the dump of a
row of tokens, in either format, is the dump of no other row, and since the
texts of its tokens make up a source text, of no other source. No field has a
line feed in it, which leaves one line for each token of a plain dump.
-/

set_option autoImplicit false

namespace ArmTokens

namespace Entry

section

variable [PrintClass]

def row (e : Entry) : List Char :=
  decimal e.start ++ ['.', '.'] ++ decimal e.stop ++ [' '] ++ e.category.tag.toList ++ [' '] ++
    Quoted.plain e.text

theorem plain_eq (e : Entry) : e.plain = e.row ++ ['\n'] := rfl

theorem no_feed_of_row (e : Entry) : '\n' ∉ e.row := by
  simp [row, no_feed_of_decimal, no_feed_of_tag, Quoted.no_feed_of_plain]

theorem lines_plain (es : List Entry) : lines (dumpPlain es) = es.map row ++ [[]] := by
  induction es with
  | nil => rfl
  | cons e es ih =>
    rw [dumpPlain, List.flatMap_cons, plain_eq, List.append_assoc, List.singleton_append,
      lines_row e.no_feed_of_row, List.map_cons, List.cons_append, ← ih]
    rfl

theorem plain_self_delimiting : SelfDelimiting plain := by
  constructor
  rintro ⟨_, _, _, _⟩ ⟨_, _, _, _⟩ y z hstart
  simp only [plain, List.append_assoc, List.cons_append, List.nil_append] at hstart
  obtain ⟨rfl, hstop⟩ := decimal_front (by decide) hstart
  obtain ⟨rfl, hcategory⟩ := decimal_front (by decide) (List.cons.inj hstop).2
  obtain ⟨rfl, htext⟩ := tag_front hcategory
  obtain ⟨rfl, hend⟩ := Quoted.plain_self_delimiting.front htext
  exact ⟨rfl, (List.cons.inj hend).2⟩

theorem plain_ne_feed (e : Entry) (y z : List Char) : e.plain ++ y ≠ '\n' :: z := by
  intro h
  cases hstart : decimal e.start with
  | nil => simp [plain, hstart] at h
  | cons d ds =>
    simp only [plain, hstart, List.append_assoc, List.cons_append] at h
    have hd : d ∈ decimal e.start := hstart ▸ List.mem_cons_self
    exact no_feed_of_decimal _ ((List.cons.inj h).1 ▸ hd)

theorem plain_injective {es fs : List Entry} (h : dumpPlain es = dumpPlain fs) : es = fs := by
  have hrow := plain_self_delimiting.row plain_ne_feed
  exact (hrow.front (congrArg (fun cs => cs ++ ['\n'] ++ []) h)).1

end

theorem member_front {name : String} {v w y z : List Char}
    (h : member name v ++ y = member name w ++ z) : v ++ y = w ++ z := by
  unfold member at h
  rw [List.append_assoc, List.append_assoc _ w z] at h
  exact List.append_cancel_left h

theorem json_self_delimiting : SelfDelimiting json := by
  constructor
  rintro ⟨_, _, _, _⟩ ⟨_, _, _, _⟩ y z h
  unfold json at h
  simp only [List.append_assoc] at h
  have htext := member_front (List.append_cancel_left h)
  obtain ⟨rfl, hcomma₁⟩ := Quoted.json_self_delimiting.front htext
  have hcategory := member_front (List.append_cancel_left hcomma₁)
  obtain ⟨htag, hcomma₂⟩ := Quoted.json_self_delimiting.front hcategory
  obtain rfl := Category.tag_injective (String.toList_inj.mp htag)
  have hstart := member_front (List.append_cancel_left hcomma₂)
  obtain ⟨rfl, hcomma₃⟩ := decimal_front (by decide) hstart
  have hstop := member_front (List.cons.inj hcomma₃).2
  obtain ⟨rfl, hend⟩ := decimal_front (by decide) hstop
  exact ⟨rfl, List.append_cancel_left hend⟩

def behindComma (e : Entry) : List Char := [',', '\n'] ++ e.json

theorem behind_comma_self_delimiting : SelfDelimiting behindComma := by
  constructor
  intro a b y z h
  unfold behindComma at h
  rw [List.append_assoc, List.append_assoc] at h
  exact json_self_delimiting.front (List.append_cancel_left h)

theorem intercalate_json (e : Entry) (es : List Entry) :
    [',', '\n'].intercalate ((e :: es).map json) = e.json ++ es.flatMap behindComma := by
  induction es generalizing e with
  | nil => simp
  | cons e' es ih =>
    rw [List.map_cons, List.map_cons, List.intercalate_cons_cons, ← List.map_cons, ih,
      List.flatMap_cons, behindComma, List.append_assoc, List.append_assoc]

theorem behind_comma_ne_feed (e : Entry) (y z : List Char) : behindComma e ++ y ≠ '\n' :: z :=
  fun h => absurd (List.cons.inj h).1 (by decide)

theorem dump_json_cons (e : Entry) (es : List Entry) :
    dumpJson (e :: es) =
      ['[', '\n'] ++ (e.json ++ (es.flatMap behindComma ++ ['\n'] ++ [']', '\n'])) := by
  show ['[', '\n'] ++ [',', '\n'].intercalate ((e :: es).map json) ++ ['\n', ']', '\n'] = _
  rw [intercalate_json]
  simp only [List.append_assoc]
  rfl

theorem dump_json_cons_ne (e : Entry) (es : List Entry) : dumpJson (e :: es) ≠ dumpJson [] := by
  rw [dump_json_cons]
  simp [dumpJson]

theorem json_injective {es fs : List Entry} (h : dumpJson es = dumpJson fs) : es = fs := by
  cases es with
  | nil =>
    cases fs with
    | nil => rfl
    | cons f fs => exact absurd h.symm (dump_json_cons_ne f fs)
  | cons e es =>
    cases fs with
    | nil => exact absurd h (dump_json_cons_ne e es)
    | cons f fs =>
      -- The first entry has no comma before it, so it is taken off before the row.
      rw [dump_json_cons, dump_json_cons] at h
      obtain ⟨rfl, hbehind⟩ := json_self_delimiting.front (List.append_cancel_left h)
      have hrow := behind_comma_self_delimiting.row behind_comma_ne_feed
      obtain ⟨rfl, _⟩ := hrow.front hbehind
      rfl

theorem dump_injective [PrintClass] {format : Format} {es fs : List Entry}
    (h : dump format es = dump format fs) :
    es = fs := by
  cases format with
  | plain => exact plain_injective h
  | json => exact json_injective h

end Entry

def Token.written (t : Token) : Entry := ⟨t.text.toList, t.category, t.start, t.span.finish⟩

theorem Token.written_injective {t u : Token} (h : t.written = u.written) : t = u := by
  obtain ⟨text, ⟨offset, len⟩, category⟩ := t
  obtain ⟨text', ⟨offset', len'⟩, category'⟩ := u
  obtain ⟨htext, hcategory, hstart, hstop⟩ := Entry.mk.inj h
  obtain rfl : text = text' := String.toList_inj.mp htext
  obtain rfl : category = category' := hcategory
  obtain rfl : offset = offset' := hstart
  obtain rfl : len = len' := Nat.add_left_cancel hstop
  rfl

theorem Token.entry_eq_ok_iff {t : Token} {e : Entry} :
    t.entry = .ok e ↔ t.span.Fits ∧ e = t.written := by
  rw [entry, bind_eq_ok_iff]
  constructor
  · rintro ⟨n, hstop, he⟩
    obtain rfl := Except.ok.inj he
    obtain ⟨hfits, rfl⟩ := Span.stop_eq_finish_iff.mp hstop
    exact ⟨hfits, rfl⟩
  · rintro ⟨hfits, rfl⟩
    exact ⟨_, Span.stop_of_fits hfits, rfl⟩

theorem entries_eq_ok_iff {ts : List Token} {es : List Entry} :
    ts.mapM Token.entry = .ok es ↔ (∀ t ∈ ts, t.span.Fits) ∧ es = ts.map Token.written := by
  induction ts generalizing es with
  | nil => simp [eq_comm]
  | cons t ts ih =>
    rw [List.mapM_cons, bind_eq_ok_iff, List.forall_mem_cons]
    constructor
    · rintro ⟨e, he, hrest⟩
      obtain ⟨hfits, rfl⟩ := Token.entry_eq_ok_iff.mp he
      obtain ⟨fs, hfs, hes⟩ := bind_eq_ok_iff.mp hrest
      obtain rfl := Except.ok.inj hes
      obtain ⟨hall, rfl⟩ := ih.mp hfs
      exact ⟨⟨hfits, hall⟩, rfl⟩
    · rintro ⟨⟨hfits, hall⟩, rfl⟩
      exact ⟨_, Token.entry_eq_ok_iff.mpr ⟨hfits, rfl⟩,
        bind_eq_ok_iff.mpr ⟨_, ih.mpr ⟨hall, rfl⟩, rfl⟩⟩

/-- A dump exists where the end of every token does. -/
theorem dump_eq_ok_iff [PrintClass] {format : Format} {ts : List Token} {out : String} :
    dump format ts = .ok out ↔
      (∀ t ∈ ts, t.span.Fits) ∧ out = String.ofList (Entry.dump format (ts.map Token.written)) := by
  rw [dump, bind_eq_ok_iff]
  constructor
  · rintro ⟨es, hes, hout⟩
    obtain rfl := Except.ok.inj hout
    obtain ⟨hfits, rfl⟩ := entries_eq_ok_iff.mp hes
    exact ⟨hfits, rfl⟩
  · rintro ⟨hfits, rfl⟩
    exact ⟨_, entries_eq_ok_iff.mpr ⟨hfits, rfl⟩, rfl⟩

theorem exists_dump [PrintClass] (format : Format) {ts : List Token}
    (hfits : ∀ t ∈ ts, t.span.Fits) :
    ∃ out, dump format ts = .ok out :=
  ⟨_, dump_eq_ok_iff.mpr ⟨hfits, rfl⟩⟩

theorem dump_injective [PrintClass] {format : Format} {ts us : List Token} {out : String}
    (hts : dump format ts = .ok out) (hus : dump format us = .ok out) : ts = us := by
  obtain ⟨_, rfl⟩ := dump_eq_ok_iff.mp hts
  obtain ⟨_, hout⟩ := dump_eq_ok_iff.mp hus
  have hentries := Entry.dump_injective (String.ofList_injective hout)
  exact (List.map_inj_right fun _ _ => Token.written_injective).mp hentries

/-- A text is what its tokens are made of. -/
theorem lex_injective {x y : String} (h : lex x = lex y) : x = y := by
  have hwhole : ∀ text, String.join ((lex text).map Token.text) = text := by
    intro text
    obtain ⟨ls, hlex, hjoin, _⟩ := exists_lexemes text
    rw [hlex, texts_lay_out, hjoin, String.ofList_toList]
  rw [← hwhole x, h, hwhole y]

theorem fits_of_mem_lex {text : String} (hsize : text.utf8ByteSize < offsetLimit) :
    ∀ t ∈ lex text, t.span.Fits := by
  intro t ht
  obtain ⟨ls, hlex, hjoin, _⟩ := exists_lexemes text
  rw [hlex] at ht
  have hfinish := (lay_out_bounds ht).2
  rw [hjoin, byte_length_to_list, Nat.zero_add] at hfinish
  exact Nat.lt_of_le_of_lt hfinish hsize

/-- In either format the dump of tokens whose ends fit exists and is the dump of no other tokens,
so no two sources have one dump. A plain dump has a line for each token, the dump of that token,
and nothing behind the last. -/
theorem dump_lossless [PrintClass] (format : Format) :
    (∀ ts, (∀ t ∈ ts, t.span.Fits) → ∃ out, dump format ts = .ok out) ∧
    (∀ ts us out, dump format ts = .ok out → dump format us = .ok out → ts = us) ∧
    (∀ x y, x.utf8ByteSize < offsetLimit → y.utf8ByteSize < offsetLimit → x ≠ y →
      ∃ a b, dump format (lex x) = .ok a ∧ dump format (lex y) = .ok b ∧ a ≠ b) ∧
    ∀ ts out, dump .plain ts = .ok out → ∃ rows,
      lines out.toList = rows ++ [[]] ∧ rows.length = ts.length ∧
        ts.map (fun t => dump .plain [t]) =
          rows.map fun row => .ok (String.ofList (row ++ ['\n'])) := by
  refine ⟨?all_dumped, ?one_list, ?one_source, ?one_line⟩
  case all_dumped =>
    intro ts hfits
    exact exists_dump format hfits
  case one_list =>
    intro ts us out hts hus
    exact dump_injective hts hus
  case one_source =>
    intro x y hx hy hne
    obtain ⟨a, ha⟩ := exists_dump format (fits_of_mem_lex hx)
    obtain ⟨b, hb⟩ := exists_dump format (fits_of_mem_lex hy)
    refine ⟨a, b, ha, hb, ?_⟩
    rintro rfl
    exact hne (lex_injective (dump_injective ha hb))
  case one_line =>
    intro ts out hout
    obtain ⟨hfits, rfl⟩ := dump_eq_ok_iff.mp hout
    refine ⟨(ts.map Token.written).map Entry.row, ?_, by simp, ?_⟩
    · rw [String.toList_ofList]
      exact Entry.lines_plain _
    · rw [List.map_map, List.map_map]
      apply List.map_congr_left
      intro t ht
      have hone : ∀ u ∈ [t], u.span.Fits := by simpa using hfits t ht
      rw [dump_eq_ok_iff.mpr ⟨hone, rfl⟩]
      simp [Entry.dump, Entry.dumpPlain, Entry.plain_eq]

def escapedComment : List Token := [⟨";\\n\"", ⟨0, 4⟩, .comment⟩]

theorem dump_lossless_lookalikes :
    (∀ t ∈ escapedComment, t.span.Fits) ∧ (∃ out, dump .plain escapedComment = .ok out) ∧
    dump .plain escapedComment = .ok "0..4 comment \";\\\\n\\\"\"\n" ∧
    dump .plain (lex ";\\n\"") = .ok "0..4 comment \";\\\\n\\\"\"\n" ∧
    escapedComment = lex ";\\n\"" ∧
    ";\\n\"".utf8ByteSize < offsetLimit ∧ ";\n\"".utf8ByteSize < offsetLimit ∧ ";\\n\"" ≠ ";\n\"" ∧
    (∃ a b, dump .plain (lex ";\\n\"") = .ok a ∧ dump .plain (lex ";\n\"") = .ok b ∧ a ≠ b) ∧
    ∃ rows, lines "0..4 comment \";\\\\n\\\"\"\n".toList = rows ++ [[]] ∧
      rows.length = escapedComment.length ∧
        escapedComment.map (fun t => dump .plain [t]) =
          rows.map fun row => .ok (String.ofList (row ++ ['\n'])) := by
  obtain ⟨hexists, hlist, hsource, hline⟩ := dump_lossless .plain
  have hfits : ∀ t ∈ escapedComment, t.span.Fits := by decide
  have hout : dump .plain escapedComment = .ok "0..4 comment \";\\\\n\\\"\"\n" :=
    dump_eq_ok_iff.mpr ⟨hfits, by decide +kernel⟩
  have hlex : dump .plain (lex ";\\n\"") = .ok "0..4 comment \";\\\\n\\\"\"\n" :=
    dump_eq_ok_iff.mpr ⟨fits_of_mem_lex (by decide), by decide +kernel⟩
  have hne : ";\\n\"" ≠ ";\n\"" := by decide
  exact ⟨hfits, hexists _ hfits, hout, hlex, hlist _ _ _ hout hlex, by decide, by decide, hne,
    hsource _ _ (by decide) (by decide) hne, hline _ _ hout⟩

end ArmTokens
