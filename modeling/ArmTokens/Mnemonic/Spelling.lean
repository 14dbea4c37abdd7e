import ArmTokens.Mnemonic.Basic

/-!
# How mnemonics are spelled

Most mnemonics are a stem with suffixes: what the family of the stem allows, and
then a condition under which the instruction takes effect. The condition always
comes last, so `ADDSEQ` is a spelling and `ADDEQS` is not. Directives have no
suffixes.
-/

set_option autoImplicit false

namespace ArmTokens.Mnemonic

def conditions : List String :=
  ["CC", "CS", "EQ", "GE", "GT", "HI", "HS", "LE", "LO", "LS", "LT", "MI", "NE", "PL", "VC", "VS"]

structure Family where
  stems : List String
  suffixes : List String
  deriving DecidableEq, Repr

def Family.spellings (f : Family) : List String :=
  f.stems.flatMap fun stem =>
    f.suffixes.flatMap fun suffix =>
      ("" :: conditions).map fun condition => stem ++ suffix ++ condition

def dataProcessing : Family where
  stems := ["ADC", "ADD", "AND", "ASR", "BIC", "CMN", "CMP", "EOR", "LSL", "LSR", "MOV", "MVN",
    "ORR", "ROR", "RRX", "RSB", "RSC", "SBC", "SUB", "TEQ", "TST"]
  suffixes := ["", "S"]

def unsuffixed : Family where
  stems := ["ADR", "END", "B", "BL"]
  suffixes := [""]

def transfers : Family where
  stems := ["LDM", "LDR", "STM", "STR"]
  suffixes := ["", "B", "DA", "DB", "EA", "ED", "FA", "FD", "IA", "IB"]

def directives : List String := ["DCB", "DCD", "EQU", "FILL", "SPACE"]

def spellings : List String :=
  dataProcessing.spellings ++ unsuffixed.spellings ++ transfers.spellings ++ directives

end ArmTokens.Mnemonic
