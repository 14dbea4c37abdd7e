import ArmTokens.Proofs.Bytes.Cut
import ArmTokens.Proofs.Mnemonic.Search

/-!
# The lookup is membership

A lexeme is an entry in another case when the bytes of the entry are those of
the lexeme with the letters `a` to `z` in upper case. The lookup answers with
that entry, of which there is at most one. Done on bytes, in a buffer that is no
longer than the longest entry, it never leaves the buffer and answers the same.
-/

set_option autoImplicit false

namespace ArmTokens

namespace Mnemonic

def upperByte (b : UInt8) : UInt8 := if 97 ≤ b ∧ b ≤ 122 then b - 32 else b

def upperBytes (lexeme : String) : List UInt8 := (utf8Bytes lexeme.toList).map upperByte

/-- The lexeme is the entry, written in any case. -/
def Spells (entry lexeme : String) : Prop := utf8Bytes entry.toList = upperBytes lexeme

instance (entry lexeme : String) : Decidable (Spells entry lexeme) :=
  inferInstanceAs (Decidable (utf8Bytes entry.toList = upperBytes lexeme))

inductive BufferFault where
  | outOfRange
  | lengthsDiffer
  deriving DecidableEq, Repr

def firstBytes (buffer : List UInt8) (n : Nat) : Except BufferFault (List UInt8) :=
  if n ≤ buffer.length then .ok (buffer.take n) else .error .outOfRange

def overwrite (part bytes : List UInt8) : Except BufferFault (List UInt8) :=
  if part.length = bytes.length then .ok bytes else .error .lengthsDiffer

def searchBytes (key : List UInt8) (lo hi : Nat) (bound : hi ≤ table.size) : Option Mnemonic :=
  if h : lo < hi then
    let mid := lo + (hi - lo) / 2
    have inside : mid < table.size := by omega
    match compare (utf8Bytes table[mid].toList) key with
    | .lt => searchBytes key (mid + 1) hi bound
    | .eq => some ⟨table[mid], Array.getElem_mem inside⟩
    | .gt => searchBytes key lo mid (by omega)
  else none
termination_by hi - lo

theorem whole_table : table.size ≤ table.size := Nat.le_refl _

/-- The lookup in a buffer of fixed length that holds the lexeme in upper case. -/
def lookupBytes? (lexeme : String) : Except BufferFault (Option Mnemonic) := do
  let bytes := utf8Bytes lexeme.toList
  if bytes.isEmpty || maxLength < bytes.length then
    return none
  let part ← firstBytes (List.replicate maxLength 0) bytes.length
  let copy ← overwrite part bytes
  return searchBytes (copy.map upperByte) 0 table.size whole_table

theorem upper_byte_of_high {b : UInt8} (h : 128 ≤ (Char.ofUInt8 b).toNat) : upperByte b = b := by
  have hval : (Char.ofUInt8 b).toNat = b.toNat := by
    rw [Char.toNat, val_of_byte, UInt8.toNat_toUInt32]
  rw [upperByte, if_neg]
  rintro ⟨_, hle⟩
  have hle : b.toNat ≤ 122 := hle
  omega

theorem to_upper_of_high {c : Char} (h : 128 ≤ c.toNat) : c.toUpper = c := by
  apply dif_neg
  rintro ⟨_, hle⟩
  have hle : c.toNat ≤ 122 := hle
  omega

theorem encode_to_upper (c : Char) :
    String.utf8EncodeChar c.toUpper = (String.utf8EncodeChar c).map upperByte := by
  by_cases hc : c.toNat < 128
  · exact of_ascii (P := fun c => String.utf8EncodeChar c.toUpper =
      (String.utf8EncodeChar c).map upperByte) (by decide) hc
  · have hhigh := Nat.le_of_not_lt hc
    have hbytes : ∀ b ∈ String.utf8EncodeChar c, upperByte b = id b := fun b hb =>
      upper_byte_of_high (byte_beyond_ascii hhigh hb)
    rw [to_upper_of_high hhigh, List.map_congr_left hbytes, List.map_id]

theorem utf8_bytes_upper (lexeme : String) :
    utf8Bytes (upperCase lexeme).toList = upperBytes lexeme := by
  rw [upperCase, upperBytes, String.toList_ofList]
  induction lexeme.toList with
  | nil => rfl
  | cons c cs ih => rw [List.map_cons, utf8_bytes_cons, utf8_bytes_cons, List.map_append, ih,
      encode_to_upper]

theorem spells_iff {entry lexeme : String} : Spells entry lexeme ↔ entry = upperCase lexeme := by
  rw [Spells, ← utf8_bytes_upper]
  exact ⟨eq_of_utf8_bytes, fun h => congrArg (fun s => utf8Bytes s.toList) h⟩

/-- A long s is no letter `S` in another case. -/
example : Spells "MOVS" "movS" ∧ ¬Spells "MOVS" "movſ" := by
  decide

theorem entry_upper {entry : String} (h : entry ∈ table) :
    ∀ b ∈ utf8Bytes entry.toList, 65 ≤ b ∧ b ≤ 90 := by
  have hentry := List.all_eq_true.mp table_entries entry (Array.mem_toList_iff.mpr h)
  simp only [Bool.and_eq_true, List.all_eq_true, decide_eq_true_eq] at hentry
  rw [utf8_bytes_to_list]
  exact hentry.1.1

theorem entry_length {entry : String} (h : entry ∈ table) :
    0 < byteLength entry.toList ∧ byteLength entry.toList ≤ maxLength := by
  have hentry := List.all_eq_true.mp table_entries entry (Array.mem_toList_iff.mpr h)
  simp only [Bool.and_eq_true, List.all_eq_true, decide_eq_true_eq] at hentry
  rw [byte_length_to_list]
  exact ⟨hentry.1.2, hentry.2⟩

theorem spells_self {entry : String} (h : entry ∈ table) : Spells entry entry := by
  have hbytes : ∀ b ∈ utf8Bytes entry.toList, upperByte b = id b := by
    intro b hb
    have hle : b ≤ 90 := (entry_upper h b hb).2
    rw [upperByte, if_neg, id_eq]
    rintro ⟨hge, _⟩
    exact absurd (UInt8.le_trans hge hle) (by decide)
  rw [Spells, upperBytes, List.map_congr_left hbytes, List.map_id]

theorem byte_length_of_spells {entry lexeme : String} (h : Spells entry lexeme) :
    byteLength lexeme.toList = byteLength entry.toList := by
  rw [← utf8_bytes_length, ← utf8_bytes_length, h, upperBytes, List.length_map]

def Fits (lexeme : String) : Prop :=
  0 < byteLength lexeme.toList ∧ byteLength lexeme.toList ≤ maxLength

theorem guard_iff (lexeme : String) :
    (lexeme.isEmpty || maxLength < byteLength lexeme.toList) = true ↔ ¬Fits lexeme := by
  rw [Bool.or_eq_true, decide_eq_true_iff, String.isEmpty, beq_iff_eq, ← byte_length_to_list, Fits]
  omega

theorem lookup_of_fits {lexeme : String} (h : Fits lexeme) :
    lookup? lexeme = search (upperCase lexeme) 0 table.size (Nat.le_refl _) :=
  if_neg fun hguard => (guard_iff lexeme).mp hguard h

theorem lookup_of_not_fits {lexeme : String} (h : ¬Fits lexeme) : lookup? lexeme = none :=
  if_pos ((guard_iff lexeme).mpr h)

theorem fits_of_spells {entry lexeme : String} (h : Spells entry lexeme) (hentry : entry ∈ table) :
    Fits lexeme := by
  rw [Fits, byte_length_of_spells h]
  exact entry_length hentry

theorem lookup_eq_some_iff {lexeme : String} {m : Mnemonic} :
    lookup? lexeme = some m ↔ Spells m.name lexeme := by
  by_cases hfits : Fits lexeme
  · rw [lookup_of_fits hfits, search_eq_some_iff, spells_iff]
  · rw [lookup_of_not_fits hfits]
    exact ⟨nofun, fun h => absurd (fits_of_spells h m.listed) hfits⟩

theorem lookup_is_some_iff {lexeme : String} :
    (lookup? lexeme).isSome = true ↔ ∃ e ∈ table, Spells e lexeme := by
  rw [Option.isSome_iff_exists]
  constructor
  · rintro ⟨m, hm⟩
    exact ⟨m.name, m.listed, lookup_eq_some_iff.mp hm⟩
  · rintro ⟨e, he, hspells⟩
    exact ⟨⟨e, he⟩, lookup_eq_some_iff.mpr hspells⟩

theorem lookup_eq_none {lexeme : String} (h : ¬∃ e ∈ table, Spells e lexeme) :
    lookup? lexeme = none := by
  rwa [← lookup_is_some_iff, Bool.not_eq_true, Option.isSome_eq_false_iff,
    Option.isNone_iff_eq_none] at h

theorem of_lexeme_eq_ok_iff {lexeme : String} {m : Mnemonic} :
    ofLexeme lexeme = .ok m ↔ Spells m.name lexeme := by
  rw [← lookup_eq_some_iff, ofLexeme]
  cases lookup? lexeme with
  | none => exact iff_of_false (by simp) (by simp)
  | some m' => rw [Option.some.injEq, Except.ok.injEq]

theorem search_bytes_eq (key : String) (lo hi : Nat) (bound : hi ≤ table.size) :
    searchBytes (utf8Bytes key.toList) lo hi bound = search key lo hi bound := by
  fun_induction search key lo hi bound with
  | case1 lo hi bound hlt mid inside hbelow ih =>
    rw [searchBytes, dif_pos hlt]
    simp only [compare_bytes]
    rw [hbelow]
    exact ih
  | case2 lo hi bound hlt mid inside hequal =>
    rw [searchBytes, dif_pos hlt]
    simp only [compare_bytes]
    rw [hequal]
  | case3 lo hi bound hlt mid inside habove ih =>
    rw [searchBytes, dif_pos hlt]
    simp only [compare_bytes]
    rw [habove]
    exact ih
  | case4 lo hi bound hempty => rw [searchBytes, dif_neg hempty]

theorem byte_guard_iff (lexeme : String) :
    ((utf8Bytes lexeme.toList).isEmpty || maxLength < (utf8Bytes lexeme.toList).length) = true ↔
      ¬Fits lexeme := by
  rw [Bool.or_eq_true, decide_eq_true_iff, List.isEmpty_iff_length_eq_zero, utf8_bytes_length, Fits]
  omega

theorem copy_of_le {bytes : List UInt8} (h : bytes.length ≤ maxLength) :
    (firstBytes (List.replicate maxLength 0) bytes.length >>= fun part => overwrite part bytes) =
      .ok bytes := by
  have hroom : bytes.length ≤ (List.replicate maxLength (0 : UInt8)).length := by
    rwa [List.length_replicate]
  have hpart : ((List.replicate maxLength (0 : UInt8)).take bytes.length).length = bytes.length :=
    List.length_take_of_le hroom
  rw [firstBytes, if_pos hroom, ok_bind, overwrite, if_pos hpart]

/-- The lookup on bytes never goes beyond its buffer, and answers as the lookup does. -/
theorem lookup_bytes_eq (lexeme : String) : lookupBytes? lexeme = .ok (lookup? lexeme) := by
  by_cases hfits : Fits lexeme
  · have hcopy := copy_of_le (Nat.le_trans (Nat.le_of_eq (utf8_bytes_length _)) hfits.2)
    have hguard := mt (byte_guard_iff lexeme).mp (not_not_intro hfits)
    rw [lookup_of_fits hfits, ← search_bytes_eq, utf8_bytes_upper, lookupBytes?, if_neg hguard,
      ← bind_assoc, hcopy]
    rfl
  · rw [lookupBytes?, lookup_of_not_fits hfits]
    exact if_pos ((byte_guard_iff lexeme).mpr hfits)

/-- What a lookup answers, told by the list of entries alone. -/
structure Membership (lexeme : String) : Prop where
  found : ∀ m, lookup? lexeme = some m ↔ Spells m.name lexeme
  listed : (lookup? lexeme).isSome = true ↔ ∃ e ∈ table, Spells e lexeme
  unique : ∀ d e, Spells d lexeme → Spells e lexeme → d = e
  keyword : isKeyword lexeme = true ↔ ∃ e ∈ table, Spells e lexeme
  known : ∀ m, ofLexeme lexeme = .ok m ↔ Spells m.name lexeme
  unknown : (¬∃ e ∈ table, Spells e lexeme) → lookup? lexeme = none ∧ isKeyword lexeme = false ∧
    ofLexeme lexeme = .error ⟨lexeme⟩
  idempotent : ∀ m, lookup? lexeme = some m → lookup? m.name = some m
  caseless : ∀ other, upperBytes other = upperBytes lexeme → lookup? other = lookup? lexeme
  buffered : lookupBytes? lexeme = .ok (lookup? lexeme)

/-- For every lexeme the lookup is membership in the table, whose entries all differ. -/
theorem lookup_membership : table.toList.Nodup ∧ ∀ lexeme, Membership lexeme := by
  refine ⟨table_nodup, fun lexeme => ?_⟩
  constructor
  case found => exact fun m => lookup_eq_some_iff
  case listed => exact lookup_is_some_iff
  case unique =>
    intro d e hd he
    exact (spells_iff.mp hd).trans (spells_iff.mp he).symm
  case keyword => exact lookup_is_some_iff
  case known => exact fun m => of_lexeme_eq_ok_iff
  case unknown =>
    intro h
    rw [isKeyword, ofLexeme, lookup_eq_none h]
    exact ⟨rfl, rfl, rfl⟩
  case idempotent =>
    intro m _
    exact lookup_eq_some_iff.mpr (spells_self m.listed)
  case caseless =>
    intro other hsame
    apply Option.ext
    intro m
    rw [lookup_eq_some_iff, lookup_eq_some_iff, Spells, Spells, hsame]
  case buffered => exact lookup_bytes_eq lexeme

end Mnemonic

end ArmTokens
