import ArmTokens.Text.Decimal
import ArmTokens.Text.Quoted
import ArmTokens.Token

/-!
# Token dumps

A list of tokens is written one token a line, or as a JSON array of objects.
Either way the dump exists exactly when the end of every token does.
-/

set_option autoImplicit false

namespace ArmTokens

inductive Format where
  | plain
  | json
  deriving DecidableEq, Repr

/-- A token with its end worked out. -/
structure Entry where
  text : List Char
  category : Category
  start : Nat
  stop : Nat
  deriving DecidableEq, Repr

def Token.entry (t : Token) : Except RangeError Entry := do
  return ⟨t.text.toList, t.category, t.start, ← t.stop⟩

namespace Entry

def plain [PrintClass] (e : Entry) : List Char :=
  decimal e.start ++ ['.', '.'] ++ decimal e.stop ++ [' '] ++ e.category.tag.toList ++ [' '] ++
    Quoted.plain e.text ++ ['\n']

def member (name : String) (value : List Char) : List Char :=
  "    ".toList ++ Quoted.json name.toList ++ [':', ' '] ++ value

def json (e : Entry) : List Char :=
  "  \x7b\n".toList ++
  member "text" (Quoted.json e.text) ++ [',', '\n'] ++
  member "category" (Quoted.json e.category.tag.toList) ++ [',', '\n'] ++
  member "start" (decimal e.start) ++ [',', '\n'] ++
  member "end" (decimal e.stop) ++ ['\n'] ++
  "  \x7d".toList

def dumpPlain [PrintClass] (es : List Entry) : List Char := es.flatMap plain

def dumpJson : List Entry → List Char
  | [] => "[]\n".toList
  | es => ['[', '\n'] ++ ([',', '\n'].intercalate (es.map json)) ++ ['\n', ']', '\n']

def dump [PrintClass] : Format → List Entry → List Char
  | .plain, es => dumpPlain es
  | .json, es => dumpJson es

end Entry

def dump [PrintClass] (format : Format) (tokens : List Token) : Except RangeError String := do
  return String.ofList (Entry.dump format (← tokens.mapM Token.entry))

end ArmTokens
