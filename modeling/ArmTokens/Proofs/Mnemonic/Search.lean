import Mathlib.Data.List.Chain
import ArmTokens.Mnemonic.Basic
import ArmTokens.Proofs.Bytes.Order

/-!
# The search finds what the table lists

The table is in strictly increasing order and holds only the letters `A` to `Z`.
An entry below the key stands before it in the table and one above it behind, so
halving never throws away the half in which the key is listed.
-/

set_option autoImplicit false

namespace ArmTokens

namespace Mnemonic

theorem table_bytes_ascend :
    (table.toList.map fun e => e.toByteArray.data.toList).IsChain (· < ·) := by
  decide +kernel

theorem table_entries : table.toList.all fun e =>
    e.toByteArray.data.toList.all (fun b => 65 ≤ b && b ≤ 90) &&
      0 < e.toByteArray.size && e.toByteArray.size ≤ maxLength := by
  decide +kernel

theorem table_chain : table.toList.IsChain fun d e => compare d e = .lt := by
  refine (List.isChain_map _ |>.mp table_bytes_ascend).imp fun d e h => ?_
  rw [← utf8_bytes_to_list, ← utf8_bytes_to_list] at h
  rw [← compare_bytes]
  exact compare_of_lt h

theorem table_pairwise : table.toList.Pairwise fun d e => compare d e = .lt := by
  let transitive : Trans (fun d e : String => compare d e = .lt) (fun d e => compare d e = .lt)
      (fun d e => compare d e = .lt) := ⟨Std.TransCmp.lt_trans⟩
  exact table_chain.pairwise

theorem ne_of_compare {d e : String} (h : compare d e = .lt) : d ≠ e := by
  rintro rfl
  rw [Std.ReflOrd.compare_self] at h
  cases h

theorem table_nodup : table.toList.Nodup := table_pairwise.imp ne_of_compare

/-- The order of the entries is that of their places. -/
theorem place_lt_of_compare {i j : Nat} (hi : i < table.size) (hj : j < table.size)
    (h : compare table[i] table[j] = .lt) : i < j := by
  rcases Nat.lt_trichotomy i j with hlt | rfl | hgt
  · exact hlt
  · exact absurd rfl (ne_of_compare h)
  · have hback := List.pairwise_iff_getElem.mp table_pairwise j i
      (by rwa [Array.length_toList]) (by rwa [Array.length_toList]) hgt
    rw [Array.getElem_toList, Array.getElem_toList, Std.OrientedOrd.eq_swap, h] at hback
    cases hback

theorem search_sound {key : String} {lo hi : Nat} {bound : hi ≤ table.size} {m : Mnemonic}
    (h : search key lo hi bound = some m) : m.name = key := by
  fun_induction search key lo hi bound with
  | case1 lo hi bound hlt mid inside hbelow ih => exact ih h
  | case2 lo hi bound hlt mid inside hequal =>
    obtain rfl := Option.some.inj h
    exact Std.LawfulEqOrd.eq_of_compare hequal
  | case3 lo hi bound hlt mid inside habove ih => exact ih h
  | case4 => cases h

theorem search_complete {i : Nat} (listed : i < table.size) {lo hi : Nat} {bound : hi ≤ table.size}
    (hlo : lo ≤ i) (hhi : i < hi) : (search table[i] lo hi bound).isSome := by
  fun_induction search table[i] lo hi bound with
  | case1 lo hi bound hlt mid inside hbelow ih =>
    exact ih (place_lt_of_compare inside listed hbelow) hhi
  | case2 => rfl
  | case3 lo hi bound hlt mid inside habove ih =>
    have hbelow : compare table[i] table[mid] = .lt := by
      rw [Std.OrientedOrd.eq_swap, habove]
      rfl
    exact ih hlo (place_lt_of_compare listed inside hbelow)
  | case4 => omega

theorem search_eq_some_iff {key : String} {m : Mnemonic} :
    search key 0 table.size (Nat.le_refl _) = some m ↔ m.name = key := by
  constructor
  · exact search_sound
  · intro hname
    obtain ⟨i, hi, hplace⟩ := Array.mem_iff_getElem.mp m.listed
    obtain ⟨m', hm'⟩ := Option.isSome_iff_exists.mp (search_complete hi (Nat.zero_le i) hi)
    rw [hplace, hname] at hm'
    have hsame : m'.name = m.name := (search_sound hm').trans hname.symm
    rw [hm', Option.some.injEq]
    cases m'
    cases m
    exact (mk.injEq _ _ _ _).mpr hsame

end Mnemonic

end ArmTokens
