import ArmTokens.Category
import ArmTokens.Text.Decimal
import ArmTokens.Proofs.Pattern.Matcher

/-!
# Writings that tell where they end

A way to write values delimits itself when the characters tell the value and
where its writing ends, whatever follows. Fields written one behind the other
can then be taken apart again, and a row of them up to the character that ends
the row. Where the characters of a field are all of one class, it is the
character behind the field that ends it.
-/

set_option autoImplicit false

namespace ArmTokens

structure SelfDelimiting {α : Type} (write : α → List Char) : Prop where
  front : ∀ {a b : α} {y z : List Char}, write a ++ y = write b ++ z → a = b ∧ y = z

namespace SelfDelimiting

variable {α : Type} {write : α → List Char}

theorem of_read {read : List Char → Option (α × List Char)}
    (h : ∀ a z, read (write a ++ z) = some (a, z)) : SelfDelimiting write := by
  constructor
  intro a b y z heq
  have hread := h a y
  rw [heq, h b z] at hread
  exact Prod.mk.inj (Option.some.inj hread.symm)

/-- A row of writings ends at a character that none of them begins with. -/
theorem row (h : SelfDelimiting write) {stop : Char} (hstop : ∀ a y z, write a ++ y ≠ stop :: z) :
    SelfDelimiting fun as : List α => as.flatMap write ++ [stop] := by
  constructor
  intro as bs y z heq
  simp only [List.append_assoc, List.singleton_append] at heq
  -- Where one row ends before the other, a writing would begin with the stop.
  induction as generalizing bs with
  | nil =>
    cases bs with
    | nil => exact ⟨rfl, (List.cons.inj heq).2⟩
    | cons b bs =>
      rw [List.flatMap_cons, List.append_assoc] at heq
      exact absurd heq.symm (hstop b _ y)
  | cons a as ih =>
    rw [List.flatMap_cons, List.append_assoc] at heq
    cases bs with
    | nil => exact absurd heq (hstop a _ z)
    | cons b bs =>
      rw [List.flatMap_cons, List.append_assoc] at heq
      obtain ⟨rfl, hrest⟩ := h.front heq
      obtain ⟨rfl, hyz⟩ := ih hrest
      exact ⟨rfl, hyz⟩

end SelfDelimiting

theorem class_front {p : Char → Bool} {u v y z : List Char} {c : Char}
    (hu : ∀ d ∈ u, p d = true) (hv : ∀ d ∈ v, p d = true) (hc : p c = false)
    (h : u ++ c :: y = v ++ c :: z) : u = v ∧ y = z := by
  have hend : ∀ w : List Char, ∀ d ∈ (c :: w).head?, p d = false := by
    intro w d hd
    exact Option.some.inj hd ▸ hc
  have hlength : u.length = v.length := by
    rw [← run_exact hu (hend y), h, run_exact hv (hend z)]
  obtain ⟨huv, hrest⟩ := List.append_inj h hlength
  exact ⟨huv, (List.cons.inj hrest).2⟩

theorem decimal_front {m n : Nat} {y z : List Char} {c : Char} (hc : c.isDigit = false)
    (h : decimal m ++ c :: y = decimal n ++ c :: z) : m = n ∧ y = z := by
  obtain ⟨hmn, hyz⟩ := class_front (fun _ => digit_of_mem_decimal) (fun _ => digit_of_mem_decimal)
    hc h
  exact ⟨decimal_injective hmn, hyz⟩

def isTagPart (c : Char) : Bool := c.isLower || c == '.' || c == '-'

theorem tag_parts (a : Category) : a.tag.toList.all isTagPart = true := by
  cases a <;> decide

theorem part_of_mem_tag {a : Category} {c : Char} (h : c ∈ a.tag.toList) : isTagPart c = true :=
  List.all_eq_true.mp (tag_parts a) c h

theorem no_feed_of_tag (a : Category) : '\n' ∉ a.tag.toList := by
  intro h
  cases part_of_mem_tag h

theorem tag_front {a b : Category} {y z : List Char}
    (h : a.tag.toList ++ ' ' :: y = b.tag.toList ++ ' ' :: z) : a = b ∧ y = z := by
  obtain ⟨hab, hyz⟩ := class_front (fun _ => part_of_mem_tag) (fun _ => part_of_mem_tag)
    (by decide) h
  exact ⟨Category.tag_injective (String.toList_inj.mp hab), hyz⟩

end ArmTokens
