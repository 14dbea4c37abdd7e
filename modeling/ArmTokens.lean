import ArmTokens.Main
import ArmTokens.Mnemonic.Spelling
import ArmTokens.Proofs.Bytes.Cut
import ArmTokens.Proofs.Bytes.Encoding
import ArmTokens.Proofs.Bytes.Number
import ArmTokens.Proofs.Bytes.OpenString
import ArmTokens.Proofs.Bytes.Pattern
import ArmTokens.Proofs.Bytes.Quoted
import ArmTokens.Proofs.Bytes.Scanner
import ArmTokens.Proofs.Lexer.LayOut
import ArmTokens.Proofs.Lexer.LineEdit
import ArmTokens.Proofs.Lexer.Locality
import ArmTokens.Proofs.Lexer.Match
import ArmTokens.Proofs.Lexer.Partition
import ArmTokens.Proofs.Lexer.Run
import ArmTokens.Proofs.Lexer.StringLine
import ArmTokens.Proofs.Lexer.StringMode
import ArmTokens.Proofs.Lexer.Window
import ArmTokens.Proofs.Pattern.Locality
import ArmTokens.Proofs.Pattern.Matcher
import ArmTokens.Proofs.Pattern.Number
import ArmTokens.Proofs.Pattern.Quoted
import ArmTokens.Proofs.Pattern.Opening
import ArmTokens.Proofs.Pattern.StringBody
import ArmTokens.Proofs.Lexer.Nesting
import ArmTokens.Proofs.Lexer.Grouping
import ArmTokens.Proofs.Diagnostic.OneLine
import ArmTokens.Proofs.Diagnostic.Malformed
import ArmTokens.Proofs.Pattern.LetterCase
import ArmTokens.Proofs.Lexer.LetterCase
import ArmTokens.Proofs.Pattern.Comment
import ArmTokens.Proofs.Lexer.Comment
import ArmTokens.Proofs.Lexer.Munch
import ArmTokens.Proofs.Diagnostic.Excerpt
import ArmTokens.Proofs.Diagnostic.Alignment
import ArmTokens.Proofs.Diagnostic.Safety
import ArmTokens.Proofs.Bytes.Order
import ArmTokens.Proofs.Mnemonic.Search
import ArmTokens.Proofs.Mnemonic.Lookup
import ArmTokens.Proofs.Mnemonic.Grammar
import ArmTokens.Proofs.Lexer.Start
import ArmTokens.Proofs.Pattern.Literal
import ArmTokens.Proofs.Lexer.Fallback
import ArmTokens.Proofs.Lexer.Number
import ArmTokens.Proofs.Pattern.Escape
import ArmTokens.Proofs.Lexer.Escape
import ArmTokens.Proofs.Span.Join
import ArmTokens.Proofs.Lexer.JoinedTokens
import ArmTokens.Proofs.Lexer.RuleOrder
import ArmTokens.Proofs.Dump.Lossless
import ArmTokens.Proofs.Diagnostic.Carets
import ArmTokens.Proofs.Diagnostic.LineOffset
