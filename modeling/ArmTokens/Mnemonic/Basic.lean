import ArmTokens.Mnemonic.Table
import ArmTokens.Text.Bytes

/-!
# Looking a lexeme up in the vocabulary

A lexeme is a keyword when the table lists its upper-case spelling. Only the
letters `a` to `z` have another case here; every other character stays as it
is, so no character beyond ASCII can turn into a letter of an entry.
-/

set_option autoImplicit false

namespace ArmTokens

structure Mnemonic where
  name : String
  listed : name ∈ Mnemonic.table
  deriving DecidableEq

namespace Mnemonic

instance : Ord Mnemonic := ⟨fun a b => compare a.name b.name⟩

def maxLength : Nat := 7

def upperCase (text : String) : String :=
  String.ofList (text.toList.map Char.toUpper)

/-- Halves the interval from `lo` up to but not including `hi` until the key is
found or the interval is empty. -/
def search (key : String) (lo hi : Nat) (bound : hi ≤ table.size) : Option Mnemonic :=
  if h : lo < hi then
    let mid := lo + (hi - lo) / 2
    have inside : mid < table.size := by omega
    match compare table[mid] key with
    | .lt => search key (mid + 1) hi bound
    | .eq => some ⟨table[mid], Array.getElem_mem inside⟩
    | .gt => search key lo mid (by omega)
  else none
termination_by hi - lo

/-- A lexeme longer than every entry is turned away before the search. -/
def lookup? (lexeme : String) : Option Mnemonic :=
  if lexeme.isEmpty || maxLength < byteLength lexeme.toList then none
  else search (upperCase lexeme) 0 table.size (Nat.le_refl _)

structure Unknown where
  lexeme : String
  deriving DecidableEq, Repr

def Unknown.message (u : Unknown) : String :=
  "\x60" ++ u.lexeme ++ "\x60 is not a known mnemonic or directive"

def ofLexeme (lexeme : String) : Except Unknown Mnemonic :=
  match lookup? lexeme with
  | some m => .ok m
  | none => .error ⟨lexeme⟩

def vocabulary : List Mnemonic :=
  table.toList.attach.map fun e => ⟨e.1, Array.mem_toList_iff.mp e.2⟩

theorem vocabulary_names : vocabulary.map name = table.toList := by
  simp [vocabulary, List.map_map, Function.comp_def]

end Mnemonic

def isKeyword (lexeme : String) : Bool := (Mnemonic.lookup? lexeme).isSome

end ArmTokens
