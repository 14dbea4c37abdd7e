import ArmTokens.Diagnostic
import ArmTokens.Lexer
import ArmTokens.Options
import ArmTokens.SourceTree
import ArmTokens.Text.Unicode

/-!
# What a run does

A run dumps the tokens of its source, or checks them: then it shows a diagnostic
for each malformed token and fails exactly when there is one.
-/

set_option autoImplicit false

namespace ArmTokens

structure Outcome where
  stdout : String
  stderr : String
  success : Bool
  deriving DecidableEq, Repr

inductive Failure where
  | read (name : String) (failure : ReadFailure)
  | range (error : RangeError)
  deriving DecidableEq, Repr

def Failure.message : Failure → String
  | .read name failure => "failed to read " ++ name ++ ": " ++ failure.message
  | .range error => error.message

def decode (contents : Except ReadFailure ByteArray) : Except ReadFailure String := do
  match String.fromUTF8? (← contents) with
  | some text => return text
  | none => throw .notUtf8

def malformed (text : String) : List Token :=
  (lex text).filter (·.category.isMalformed)

def diagnose [ColumnWidth] (name text : String) (t : Token) : Except RangeError String :=
  render text t.span name "while lexing" t.category.complaint

/-- How many malformed tokens there are, where there are any. -/
def tally (name : String) (count : Nat) : String :=
  if count = 0 then ""
  else String.ofList (decimal count) ++ " malformed token(s) in " ++ name ++ "\n"

def check [ColumnWidth] (name text : String) : Except RangeError Outcome := do
  let faults := malformed text
  let diagnostics ← faults.mapM (diagnose name text)
  return {
    stdout := ""
    stderr := String.join diagnostics ++ tally name faults.length
    success := faults.isEmpty }

def dumpTokens [PrintClass] (format : Format) (text : String) : Except RangeError Outcome := do
  return { stdout := ← dump format (lex text), stderr := "", success := true }

def Options.sourceName (o : Options) : String := o.file.getD "<stdin>"

def run [ColumnWidth] [PrintClass] (o : Options) (contents : Except ReadFailure ByteArray) :
    Except Failure Outcome := do
  let text ← (decode contents).mapError (.read o.sourceName)
  let outcome := if o.check then check o.sourceName text else dumpTokens o.format text
  outcome.mapError .range

end ArmTokens
