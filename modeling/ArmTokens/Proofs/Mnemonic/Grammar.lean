import Mathlib.Data.List.Perm.Subperm
import ArmTokens.Mnemonic.Spelling
import ArmTokens.Proofs.Mnemonic.Lookup

/-!
# The vocabulary is a grammar of suffixes

A word of the grammar is a stem with a suffix of its family and perhaps a
condition, or it is a directive. Read from its front, every entry of the table
is such a word. The entries all differ, and there are as many of them as the
grammar has words, so the table leaves out none.
-/

set_option autoImplicit false

namespace ArmTokens

namespace Mnemonic

def families : List Family := [dataProcessing, unsuffixed, transfers]

inductive Spelled : String → Prop
  | plain {f : Family} {stem suffix : String} : f ∈ families → stem ∈ f.stems →
      suffix ∈ f.suffixes → Spelled (stem ++ suffix)
  | conditional {f : Family} {stem suffix condition : String} : f ∈ families → stem ∈ f.stems →
      suffix ∈ f.suffixes → condition ∈ conditions → Spelled (stem ++ suffix ++ condition)
  | directive {word : String} : word ∈ directives → Spelled word

theorem Family.mem_spellings_iff {f : Family} {word : String} :
    word ∈ f.spellings ↔ ∃ stem ∈ f.stems, ∃ suffix ∈ f.suffixes, ∃ condition ∈ "" :: conditions,
      stem ++ suffix ++ condition = word := by
  simp only [Family.spellings, List.mem_flatMap, List.mem_map]

theorem spelled_of_family {f : Family} (hf : f ∈ families) {word : String}
    (h : word ∈ f.spellings) : Spelled word := by
  obtain ⟨stem, hstem, suffix, hsuffix, condition, hcondition, rfl⟩ := Family.mem_spellings_iff.mp h
  rcases List.mem_cons.mp hcondition with rfl | hcondition
  · rw [String.append_empty]
    exact .plain hf hstem hsuffix
  · exact .conditional hf hstem hsuffix hcondition

theorem mem_spellings {word : String} :
    word ∈ spellings ↔ (∃ f ∈ families, word ∈ f.spellings) ∨ word ∈ directives := by
  simp [spellings, families, or_assoc]

theorem spelled_iff_mem {word : String} : Spelled word ↔ word ∈ spellings := by
  rw [mem_spellings]
  constructor
  · intro h
    cases h with
    | @plain f stem suffix hf hstem hsuffix =>
      refine .inl ⟨f, hf, Family.mem_spellings_iff.mpr ?_⟩
      exact ⟨stem, hstem, suffix, hsuffix, "", List.mem_cons_self, String.append_empty⟩
    | @conditional f stem suffix condition hf hstem hsuffix hcondition =>
      refine .inl ⟨f, hf, Family.mem_spellings_iff.mpr ?_⟩
      exact ⟨stem, hstem, suffix, hsuffix, condition, List.mem_cons_of_mem _ hcondition, rfl⟩
    | directive hword => exact .inr hword
  · rintro (⟨f, hf, hword⟩ | hword)
    · exact spelled_of_family hf hword
    · exact .directive hword

/-! ## Reading a word from its front -/

def wordBytes (word : String) : List UInt8 := word.toByteArray.data.toList

theorem word_bytes_append (word ending : String) :
    wordBytes (word ++ ending) = wordBytes word ++ wordBytes ending := by
  simp [wordBytes, String.toByteArray_append]

theorem eq_of_word_bytes {word other : String} (h : wordBytes word = wordBytes other) :
    word = other := by
  apply eq_of_utf8_bytes
  rwa [utf8_bytes_to_list, utf8_bytes_to_list]

def Family.reads (f : Family) (word : List UInt8) : Bool :=
  f.stems.any fun stem => (word.dropPrefix? (wordBytes stem)).any fun ending =>
    f.suffixes.any fun suffix => (ending.dropPrefix? (wordBytes suffix)).any fun rest =>
      ("" :: conditions).any fun condition => wordBytes condition == rest

def reads (word : String) : Bool :=
  families.any (·.reads (wordBytes word)) || directives.any fun d => wordBytes d == wordBytes word

theorem any_drop_prefix {word front : List UInt8} {p : List UInt8 → Bool} :
    (word.dropPrefix? front).any p = true ↔ ∃ rest, front ++ rest = word ∧ p rest = true := by
  rw [Option.any_eq_true]
  constructor
  · rintro ⟨rest, hrest, hp⟩
    obtain ⟨front', rfl, hfront⟩ := List.dropPrefix?_eq_some_iff.mp hrest
    exact ⟨rest, by rw [beq_iff_eq.mp hfront], hp⟩
  · rintro ⟨rest, rfl, hp⟩
    exact ⟨rest, List.dropPrefix?_eq_some_iff.mpr ⟨front, rfl, BEq.rfl⟩, hp⟩

theorem Family.reads_iff {f : Family} {word : String} :
    f.reads (wordBytes word) = true ↔ word ∈ f.spellings := by
  rw [Family.mem_spellings_iff]
  simp only [Family.reads, List.any_eq_true, any_drop_prefix, beq_iff_eq]
  constructor
  · rintro ⟨stem, hstem, ending, hword, suffix, hsuffix, rest, rfl, condition, hcondition, rfl⟩
    refine ⟨stem, hstem, suffix, hsuffix, condition, hcondition, eq_of_word_bytes ?_⟩
    rw [← hword, word_bytes_append, word_bytes_append, List.append_assoc]
  · rintro ⟨stem, hstem, suffix, hsuffix, condition, hcondition, rfl⟩
    refine ⟨stem, hstem, _, ?_, suffix, hsuffix, _, rfl, condition, hcondition, rfl⟩
    rw [word_bytes_append, word_bytes_append, List.append_assoc]

theorem reads_iff {word : String} : reads word = true ↔ word ∈ spellings := by
  rw [mem_spellings, reads, Bool.or_eq_true, List.any_eq_true, List.any_eq_true]
  simp only [Family.reads_iff, beq_iff_eq]
  constructor
  · rintro (hfamily | ⟨d, hd, hbytes⟩)
    · exact .inl hfamily
    · exact .inr (eq_of_word_bytes hbytes ▸ hd)
  · rintro (hfamily | hword)
    · exact .inl hfamily
    · exact .inr ⟨word, hword, rfl⟩

instance (word : String) : Decidable (Spelled word) :=
  decidable_of_iff (reads word = true) (reads_iff.trans spelled_iff_mem.symm)

theorem table_reads : table.toList.all reads = true := by
  decide +kernel

theorem spellings_length : spellings.length = table.toList.length := by
  decide +kernel

/-- As many words as entries, and every entry is one of the words. -/
theorem table_perm_spellings : table.toList.Perm spellings := by
  have hsub : table.toList ⊆ spellings := by
    intro entry hentry
    exact reads_iff.mp (List.all_eq_true.mp table_reads entry hentry)
  exact (table_nodup.subperm hsub).perm_of_length_le (Nat.le_of_eq spellings_length)

theorem mem_table_iff {word : String} : word ∈ table ↔ Spelled word := by
  rw [spelled_iff_mem, ← table_perm_spellings.mem_iff, Array.mem_toList_iff]

theorem not_reads_flags_last : dataProcessing.stems.all (fun stem =>
    conditions.all fun condition => !reads (stem ++ condition ++ "S")) = true := by
  decide +kernel

/-- A lexeme is a keyword when its upper case is a word of the grammar, whatever the lexeme. A
condition before the suffix for the flags spells no keyword. -/
theorem keyword_iff_spelled :
    (∀ lexeme, isKeyword lexeme = true ↔ Spelled (upperCase lexeme)) ∧
    ∀ stem ∈ dataProcessing.stems, ∀ condition ∈ conditions, ∀ lexeme,
      upperCase lexeme = stem ++ condition ++ "S" → isKeyword lexeme = false := by
  have hword : ∀ lexeme, isKeyword lexeme = true ↔ Spelled (upperCase lexeme) := by
    intro lexeme
    rw [isKeyword, lookup_is_some_iff, ← mem_table_iff]
    constructor
    · rintro ⟨entry, hentry, hspells⟩
      rwa [← spells_iff.mp hspells]
    · intro hentry
      exact ⟨_, hentry, spells_iff.mpr rfl⟩
  refine ⟨hword, ?_⟩
  intro stem hstem condition hcondition lexeme hupper
  have hnot := List.all_eq_true.mp not_reads_flags_last stem hstem
  have hnot := List.all_eq_true.mp hnot condition hcondition
  rw [← Bool.not_eq_true, hword, hupper, spelled_iff_mem, ← reads_iff]
  simpa using hnot

theorem keyword_iff_spelled_flags :
    "ADD" ∈ dataProcessing.stems ∧ "EQ" ∈ conditions ∧ upperCase "addEQs" = "ADD" ++ "EQ" ++ "S" ∧
      isKeyword "addEQs" = false ∧ Spelled (upperCase "addsEQ") ∧ isKeyword "addsEQ" = true := by
  have hstem : "ADD" ∈ dataProcessing.stems := by decide
  have hcondition : "EQ" ∈ conditions := by decide
  have hupper : upperCase "addEQs" = "ADD" ++ "EQ" ++ "S" := by decide
  have hspelled : Spelled (upperCase "addsEQ") := by decide
  exact ⟨hstem, hcondition, hupper, keyword_iff_spelled.2 _ hstem _ hcondition _ hupper, hspelled,
    (keyword_iff_spelled.1 _).mpr hspelled⟩

end Mnemonic

end ArmTokens
