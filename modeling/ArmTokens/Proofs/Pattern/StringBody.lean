import ArmTokens.Proofs.Pattern.Matcher
import ArmTokens.Pattern.Quoted

/-!
# The body of a string on its line

In a paired text every quote and every backslash belongs to a backslash with the
character behind it, and no character ends a line. The look ahead from an
opening quote goes over a paired text. It succeeds where the line ends behind
that text, and fails where a quote stands there or a backslash that ends the
line.
-/

set_option autoImplicit false

namespace ArmTokens

inductive Paired : List Char → Prop
  | nil : Paired []
  | plain {c : Char} {cs : List Char} : c ≠ '"' → c ≠ '\\' → isLineEnd c = false →
      Paired cs → Paired (c :: cs)
  | pair {c : Char} {cs : List Char} : isLineEnd c = false → Paired cs →
      Paired ('\\' :: c :: cs)

/-- Nothing more stands on the line. -/
def AtLineEnd (cs : List Char) : Prop := ∀ c ∈ cs.head?, isLineEnd c = true

/-- A quote that closes the string, or a backslash that the line end leaves alone. -/
def Stops (cs : List Char) : Prop :=
  cs.head? = some '"' ∨ ∃ tail, cs = '\\' :: tail ∧ AtLineEnd tail

theorem at_line_end_nil : AtLineEnd [] := by
  intro c hc
  cases hc

theorem at_line_end_cons {c : Char} {cs : List Char} :
    AtLineEnd (c :: cs) ↔ isLineEnd c = true := by
  constructor
  · intro h
    exact h c rfl
  · intro h d hd
    cases hd
    exact h

theorem AtLineEnd.cut {cs z : List Char} (h : AtLineEnd (cs ++ z)) : AtLineEnd cs := by
  cases cs with
  | nil => exact at_line_end_nil
  | cons c cs => exact at_line_end_cons.mpr (at_line_end_cons.mp h)

theorem AtLineEnd.extend {cs : List Char} (h : AtLineEnd cs) (hne : cs ≠ []) (z : List Char) :
    AtLineEnd (cs ++ z) := by
  cases cs with
  | nil => exact absurd rfl hne
  | cons c cs => exact at_line_end_cons.mpr (at_line_end_cons.mp h)

theorem Paired.on_line {u : List Char} (h : Paired u) : ∀ c ∈ u, isLineEnd c = false := by
  induction h with
  | nil =>
    intro c hc
    cases hc
  | plain _ _ hline _ ih =>
    intro c hc
    rcases List.mem_cons.mp hc with rfl | hc
    · exact hline
    · exact ih c hc
  | pair hline _ ih =>
    intro c hc
    rcases List.mem_cons.mp hc with rfl | hc
    · rfl
    · rcases List.mem_cons.mp hc with rfl | hc
      · exact hline
      · exact ih c hc

theorem Paired.append {u v : List Char} (hu : Paired u) (hv : Paired v) : Paired (u ++ v) := by
  induction hu with
  | nil => exact hv
  | plain hquote hback hline _ ih => exact .plain hquote hback hline ih
  | pair hline _ ih => exact .pair hline ih

theorem not_at_line_end {cs : List Char} (h : ¬ AtLineEnd cs) :
    ∃ c tail, cs = c :: tail ∧ isLineEnd c = false := by
  cases cs with
  | nil => exact absurd at_line_end_nil h
  | cons c tail => exact ⟨c, tail, rfl, Bool.eq_false_iff.mpr (mt at_line_end_cons.mpr h)⟩

theorem AtLineEnd.head {cs : List Char} (h : AtLineEnd cs) {u : List Char} {c : Char}
    (hc : isLineEnd c = false) (hhead : (u ++ cs).head? = some c) : u.head? = some c := by
  cases u with
  | cons d u => exact hhead
  | nil =>
    have hline := h c hhead
    rw [hc] at hline
    cases hline

theorem open_body_plain {c : Char} (hquote : c ≠ '"') (hback : c ≠ '\\')
    (hline : isLineEnd c = false) (cs : List Char) :
    openBodyLength? (c :: cs) = (openBodyLength? cs).map (1 + ·) := by
  rw [openBodyLength?]
  · simp [hquote, hback, hline]
  · intro d tail h
    exact absurd h hback

theorem open_body_append {u : List Char} (h : Paired u) (v : List Char) :
    openBodyLength? (u ++ v) = (openBodyLength? v).map (u.length + ·) := by
  induction h with
  | nil => simp
  | @plain c cs hquote hback hline _ ih =>
    rw [List.cons_append, open_body_plain hquote hback hline, ih, Option.map_map]
    congr 1
    ext n
    rw [Function.comp_apply, List.length_cons]
    omega
  | @pair c cs hline _ ih =>
    rw [List.cons_append, List.cons_append, openBodyLength?, hline, if_neg (by decide), ih,
      Option.map_map]
    congr 1
    ext n
    rw [Function.comp_apply, List.length_cons, List.length_cons]
    omega

theorem open_body_at_line_end {v : List Char} (h : AtLineEnd v) : openBodyLength? v = some 0 := by
  cases v with
  | nil => rfl
  | cons c cs =>
    have hline := at_line_end_cons.mp h
    rw [openBodyLength?]
    · rw [if_pos hline]
    · rintro d tail rfl
      cases hline

theorem open_body_stops {v : List Char} (h : Stops v) : openBodyLength? v = none := by
  rcases h with hquote | ⟨tail, rfl, htail⟩
  · obtain ⟨cs, rfl⟩ := List.head?_eq_some_iff.mp hquote
    rfl
  · cases tail with
    | nil => rfl
    | cons c cs => rw [openBodyLength?, if_pos (at_line_end_cons.mp htail)]

/-- Every text is paired up to the end of its line or up to where the look ahead stops. -/
theorem exists_paired (cs : List Char) :
    ∃ u v, cs = u ++ v ∧ Paired u ∧ (AtLineEnd v ∨ Stops v) := by
  fun_induction openBodyLength? cs with
  | case1 => exact ⟨[], [], rfl, .nil, .inl at_line_end_nil⟩
  | case2 c cs hline =>
    exact ⟨[], _, rfl, .nil, .inr (.inr ⟨_, rfl, at_line_end_cons.mpr hline⟩)⟩
  | case3 c cs hline ih =>
    obtain ⟨u, v, rfl, hu, hv⟩ := ih
    exact ⟨_ :: _ :: u, v, rfl, .pair (by simpa using hline) hu, hv⟩
  | case4 c cs _ hline => exact ⟨[], _, rfl, .nil, .inl (at_line_end_cons.mpr hline)⟩
  | case5 c cs hne _ hstop =>
    refine ⟨[], _, rfl, .nil, .inr ?_⟩
    rcases hstop with rfl | rfl
    · exact .inl rfl
    · cases cs with
      | nil => exact .inr ⟨[], rfl, at_line_end_nil⟩
      | cons d cs => exact absurd rfl (hne d cs rfl)
  | case6 c cs _ hline hstop ih =>
    obtain ⟨u, v, rfl, hu, hv⟩ := ih
    obtain ⟨hquote, hback⟩ := not_or.mp hstop
    exact ⟨_ :: u, v, rfl, .plain hquote hback (by simpa using hline) hu, hv⟩

theorem open_body_eq_some_iff {cs : List Char} {n : Nat} :
    openBodyLength? cs = some n ↔
      ∃ u v, cs = u ++ v ∧ u.length = n ∧ Paired u ∧ AtLineEnd v := by
  constructor
  · intro h
    obtain ⟨u, v, rfl, hu, hv | hv⟩ := exists_paired cs
    · rw [open_body_append hu, open_body_at_line_end hv] at h
      exact ⟨u, v, rfl, Option.some.inj h, hu, hv⟩
    · rw [open_body_append hu, open_body_stops hv] at h
      cases h
  · rintro ⟨u, v, rfl, rfl, hu, hv⟩
    rw [open_body_append hu, open_body_at_line_end hv]
    rfl

theorem open_body_eq_none_iff {cs : List Char} :
    openBodyLength? cs = none ↔ ∃ u v, cs = u ++ v ∧ Paired u ∧ Stops v := by
  constructor
  · intro h
    obtain ⟨u, v, rfl, hu, hv | hv⟩ := exists_paired cs
    · rw [open_body_append hu, open_body_at_line_end hv] at h
      cases h
    · exact ⟨u, v, rfl, hu, hv⟩
  · rintro ⟨u, v, rfl, hu, hv⟩
    rw [open_body_append hu, open_body_stops hv]
    rfl

theorem part_of_append {u v w z : List Char} (h : w ++ z = u ++ v) (hle : u.length ≤ w.length) :
    ∃ mid, w = u ++ mid ∧ v = mid ++ z := by
  rcases List.append_eq_append_iff.mp h with ⟨mid, hu, hz⟩ | ⟨mid, hw, hv⟩
  · have hmid : mid = [] := by
      apply List.eq_nil_of_length_eq_zero
      rw [hu, List.length_append] at hle
      omega
    rw [hmid, List.append_nil] at hu
    rw [hmid, List.nil_append] at hz
    exact ⟨[], by rw [hu, List.append_nil], by rw [hz, List.nil_append]⟩
  · exact ⟨mid, hw, hv⟩

theorem settles_open_body : Settles openBodyLength? := by
  constructor
  · intro w z n h hle
    obtain ⟨u, v, hcs, rfl, hu, hv⟩ := open_body_eq_some_iff.mp h
    obtain ⟨mid, rfl, rfl⟩ := part_of_append hcs hle
    exact open_body_eq_some_iff.mpr ⟨u, mid, rfl, rfl, hu, hv.cut⟩
  · intro w n z h hlt
    obtain ⟨u, v, rfl, rfl, hu, hv⟩ := open_body_eq_some_iff.mp h
    have hne : v ≠ [] := by
      rintro rfl
      rw [List.append_nil] at hlt
      omega
    exact open_body_eq_some_iff.mpr ⟨u, v ++ z, List.append_assoc u v z, rfl, hu, hv.extend hne z⟩

theorem avoids_open_body {a : Char} (ha : isLineEnd a = true) : Avoids a openBodyLength? := by
  intro cs n h hmem
  obtain ⟨u, v, rfl, rfl, hu, _⟩ := open_body_eq_some_iff.mp h
  rw [List.take_left] at hmem
  have hline := hu.on_line a hmem
  rw [ha] at hline
  cases hline

end ArmTokens
