/-!
# What a lexeme is

The categories form a closed, flat set. Each has a tag, the name by which a
highlighting host knows it, and a tag names at most one category.
-/

set_option autoImplicit false

namespace ArmTokens

inductive Category where
  | keyword
  | identifier
  | operatorSymbol
  | operatorOther
  | bracketCurly
  | bracketSquare
  | bracketParenthesis
  /-- A number after `#`. -/
  | immediateHex
  | immediateBin
  | immediateDec
  | bareHex
  | bareBin
  | bareDec
  | delimiter
  | string
  | stringEscape
  | stringEscapeInvalid
  /-- A string that its line does not close. -/
  | stringInvalid
  | stringQuoteOpen
  | stringQuoteClose
  | char
  | charInvalid
  | comment
  | commentExpectPass
  | commentExpectFail
  | whitespace
  /-- A character that no rule takes. -/
  | invalid
  deriving DecidableEq, Repr, Ord

namespace Category

def all : List Category :=
  [.keyword, .identifier, .operatorSymbol, .operatorOther, .bracketCurly, .bracketSquare,
   .bracketParenthesis, .immediateHex, .immediateBin, .immediateDec, .bareHex, .bareBin,
   .bareDec, .delimiter, .string, .stringEscape, .stringEscapeInvalid, .stringInvalid,
   .stringQuoteOpen, .stringQuoteClose, .char, .charInvalid, .comment, .commentExpectPass,
   .commentExpectFail, .whitespace, .invalid]

def tag : Category → String
  | .keyword => "keyword"
  | .identifier => "identifier"
  | .operatorSymbol => "operator.symbol"
  | .operatorOther => "operator.other"
  | .bracketCurly => "bracket.curly"
  | .bracketSquare => "bracket.square"
  | .bracketParenthesis => "bracket.parenthesis"
  | .immediateHex => "number.immediate.hex"
  | .immediateBin => "number.immediate.bin"
  | .immediateDec => "number.immediate.dec"
  | .bareHex => "number.bare.hex"
  | .bareBin => "number.bare.bin"
  | .bareDec => "number.bare.dec"
  | .delimiter => "delimiter"
  | .string => "string"
  | .stringEscape => "string.escape"
  | .stringEscapeInvalid => "string.escape.invalid"
  | .stringInvalid => "string.invalid"
  | .stringQuoteOpen => "string.quote.open"
  | .stringQuoteClose => "string.quote.close"
  | .char => "char"
  | .charInvalid => "char.invalid"
  | .comment => "comment"
  | .commentExpectPass => "comment.expect-pass"
  | .commentExpectFail => "comment.expect-fail"
  | .whitespace => "whitespace"
  | .invalid => "invalid"

structure Unknown where
  tag : String
  deriving DecidableEq, Repr

def Unknown.message (u : Unknown) : String :=
  "unknown token category \x60" ++ u.tag ++ "\x60"

def ofTag (tag : String) : Except Unknown Category :=
  match all.find? (·.tag == tag) with
  | some c => .ok c
  | none => .error ⟨tag⟩

/-- The categories that mark a fault in the source. -/
def isMalformed : Category → Bool
  | .invalid | .stringInvalid | .stringEscapeInvalid | .charInvalid => true
  | _ => false

def complaint : Category → String
  | .stringInvalid => "string is not closed on this line"
  | .stringEscapeInvalid => "unknown escape sequence"
  | .charInvalid => "stray or unterminated character quote"
  | _ => "unexpected character"

def isNumber : Category → Bool
  | .immediateHex | .immediateBin | .immediateDec | .bareHex | .bareBin | .bareDec => true
  | _ => false

theorem mem_all (c : Category) : c ∈ all := by
  cases c <;> decide

theorem tag_injective {c d : Category} (h : c.tag = d.tag) : c = d := by
  revert h
  cases c <;> cases d <;> decide

theorem of_tag_tag (c : Category) : ofTag c.tag = .ok c := by
  cases c <;> rfl

end Category

end ArmTokens
