import ArmTokens.Proofs.Bytes.Number
import ArmTokens.Proofs.Bytes.Quoted

/-!
# Patterns by bytes

Every pattern over the bytes of a text. The main statement says that no pattern
faults, and that the bytes it takes are those of the characters it takes.
-/

set_option autoImplicit false

namespace ArmTokens

def identifierBytes? (cs : List Char) : Except Fault (Option Nat) := do
  match oneByte? isIdentifierStart cs with
  | none => return none
  | some _ => return some (← plus 1 (byteRun isIdentifierPart (← dropBytes 1 cs)))

def lineBytes? (leader cs : List Char) : Except Fault (Option Nat) :=
  if leader.isPrefixOf cs then do
    return some (← plus (byteLength leader)
      (byteRun (fun c => !isLineEnd c) (cs.drop leader.length)))
  else return none

def Pattern.matchBytes? : Pattern → List Char → Except Fault (Option Nat)
  | .identifier, cs => identifierBytes? cs
  | .whitespace, cs => return byteRun? isBlank cs
  | .bracket, cs => return oneByte? isBracket cs
  | .symbols, cs => return byteRun? isSymbol cs
  | .immediate r, cs => r.immediateBytes? cs
  | .bare r, cs => r.literalBytes? cs
  | .delimiter, cs => return oneByte? isDelimiter cs
  | .openString, cs => openStringBytes? cs
  | .doubleQuote, cs => return oneByte? (· == '"') cs
  | .charLiteral, cs => charLiteralBytes? cs
  | .charEscape, cs => charEscapeBytes? cs
  | .singleQuote, cs => return oneByte? (· == '\'') cs
  | .escape, cs => escapeBytes? cs
  | .anyEscape, cs => anyEscapeBytes? cs
  | .comment, cs => lineBytes? [';'] cs
  | .expectPass, cs => lineBytes? ['>', '>', ';'] cs
  | .expectFail, cs => lineBytes? ['>', '>', '-'] cs
  | .stringText, cs => return byteRun? isStringText cs

theorem identifier_bytes {cs : List Char} (h : byteLength cs < offsetLimit) :
    identifierBytes? cs = .ok (bytesOf cs (Pattern.identifierLength? cs)) := by
  cases cs with
  | nil => rfl
  | cons c cs =>
    rw [identifierBytes?, one_byte_cons ascii_only_is_identifier_start, Pattern.identifierLength?]
    by_cases hc : isIdentifierStart c
    · have hascii := ascii_only_is_identifier_start c hc
      have hsplit := byte_length_take_add_drop (runLength isIdentifierPart cs) cs
      rw [byteLength, utf8_size_of_ascii hascii] at h
      have hsum : 1 + byteLength (cs.take (runLength isIdentifierPart cs)) < offsetLimit := by omega
      simp [hc, drop_bytes_one hascii, byte_run_eq ascii_only_is_identifier_part.bytewise,
        plus_ok hsum, bytesOf, Nat.add_comm 1, byteLength, utf8_size_of_ascii hascii]
    · simp [hc, bytesOf]

theorem line_bytes {leader cs : List Char} (h : byteLength cs < offsetLimit) :
    lineBytes? leader cs = .ok (bytesOf cs (Pattern.lineLength? leader cs)) := by
  rw [lineBytes?, Pattern.lineLength?]
  by_cases hlead : leader.isPrefixOf cs
  · obtain ⟨rest, rfl⟩ := List.isPrefixOf_iff_prefix.mp hlead
    have hrest := byte_length_take_add_drop (runLength (fun c => !isLineEnd c) rest) rest
    rw [byte_length_append] at h
    rw [if_pos hlead, if_pos hlead, List.drop_left, byte_run_eq ascii_only_is_line_end.bytewise.not,
      plus_ok (by omega)]
    simp [bytesOf, List.take_append, List.take_of_length_le (Nat.le_add_right _ _)]
  · rw [if_neg hlead, if_neg hlead]
    rfl

/-- No pattern faults, and the bytes a pattern takes are those of the characters it takes. -/
theorem match_bytes {cs : List Char} (p : Pattern) (h : byteLength cs < offsetLimit) :
    p.matchBytes? cs = .ok (bytesOf cs (p.matchLength? cs)) := by
  cases p with
  | identifier => exact identifier_bytes h
  | whitespace => exact congrArg _ (byte_run_some_eq ascii_only_is_blank.bytewise cs)
  | bracket => exact congrArg _ (one_byte_eq ascii_only_is_bracket cs)
  | symbols => exact congrArg _ (byte_run_some_eq ascii_only_is_symbol.bytewise cs)
  | immediate r => exact immediate_bytes h
  | bare r => exact literal_bytes h
  | delimiter => exact congrArg _ (one_byte_eq ascii_only_is_delimiter cs)
  | openString => exact open_string_bytes h
  | doubleQuote => exact congrArg _ (one_byte_eq (ascii_only_beq (by decide)) cs)
  | charLiteral => exact char_literal_bytes cs
  | charEscape => exact char_escape_bytes h
  | singleQuote => exact congrArg _ (one_byte_eq (ascii_only_beq (by decide)) cs)
  | escape => exact escape_bytes cs
  | anyEscape => exact any_escape_bytes h
  | comment => exact line_bytes h
  | expectPass => exact line_bytes h
  | expectFail => exact line_bytes h
  | stringText => exact congrArg _ (byte_run_some_eq bytewise_is_string_text cs)

end ArmTokens
