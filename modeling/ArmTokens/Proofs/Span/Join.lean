import ArmTokens.Span

/-!
# Joins are least covers

A span covers another when it starts no later and stops no earlier. The join of
two spans is the least span that covers both, and it exists where the ends of
both fit. So the order and the grouping in which spans are joined make no
difference, to the failures neither: joined two by two, spans that fit have the
least span that covers them all.
-/

set_option autoImplicit false

namespace ArmTokens

namespace Span

def finish (s : Span) : Nat := s.offset + s.len

def Fits (s : Span) : Prop := s.finish < offsetLimit

instance : DecidablePred Fits := fun s => inferInstanceAs (Decidable (s.finish < offsetLimit))

def Covers (s t : Span) : Prop := s.offset ≤ t.offset ∧ t.finish ≤ s.finish

def hull (s t : Span) : Span :=
  ⟨min s.offset t.offset, max s.finish t.finish - min s.offset t.offset⟩

theorem stop_of_fits {s : Span} (h : s.Fits) : s.stop = .ok s.finish :=
  stop_eq_ok_iff.mpr ⟨rfl, h⟩

theorem stop_of_not_fits {s : Span} (h : ¬s.Fits) : s.stop = .error .overflow :=
  stop_eq_error_iff.mpr ⟨rfl, Nat.le_of_not_lt h⟩

theorem stop_eq_finish_iff {s : Span} {n : Nat} : s.stop = .ok n ↔ s.Fits ∧ n = s.finish := by
  rw [stop_eq_ok_iff]
  constructor
  · rintro ⟨rfl, h⟩
    exact ⟨h, rfl⟩
  · rintro ⟨h, rfl⟩
    exact ⟨rfl, h⟩

theorem offset_le_finish (s : Span) : s.offset ≤ s.finish := Nat.le_add_right _ _

theorem eq_of_bounds {s t : Span} (hstart : s.offset = t.offset) (hfinish : s.finish = t.finish) :
    s = t := by
  cases s
  cases t
  simp only [finish] at hstart hfinish
  simp only [mk.injEq]
  omega

theorem covers_refl (s : Span) : s.Covers s := ⟨Nat.le_refl _, Nat.le_refl _⟩

theorem covers_antisymm {s t : Span} (hst : s.Covers t) (hts : t.Covers s) : s = t :=
  eq_of_bounds (Nat.le_antisymm hst.1 hts.1) (Nat.le_antisymm hts.2 hst.2)

theorem Covers.fits {s t : Span} (h : s.Covers t) (hs : s.Fits) : t.Fits :=
  Nat.lt_of_le_of_lt h.2 hs

@[simp] theorem offset_hull (s t : Span) : (s.hull t).offset = min s.offset t.offset := rfl

@[simp] theorem finish_hull (s t : Span) : (s.hull t).finish = max s.finish t.finish := by
  have hs := s.offset_le_finish
  show min s.offset t.offset + (max s.finish t.finish - min s.offset t.offset) = _
  omega

theorem hull_comm (s t : Span) : s.hull t = t.hull s := by
  apply eq_of_bounds
  · simp [Nat.min_comm]
  · simp [Nat.max_comm]

theorem hull_assoc (s t u : Span) : (s.hull t).hull u = s.hull (t.hull u) := by
  apply eq_of_bounds
  · simp [Nat.min_assoc]
  · simp [Nat.max_assoc]

theorem hull_self (s : Span) : s.hull s = s := by
  apply eq_of_bounds
  · simp
  · simp

theorem covers_hull_iff {u s t : Span} : u.Covers (s.hull t) ↔ u.Covers s ∧ u.Covers t := by
  simp only [Covers, offset_hull, finish_hull]
  omega

theorem fits_hull_iff {s t : Span} : (s.hull t).Fits ↔ s.Fits ∧ t.Fits := by
  simp only [Fits, finish_hull]
  omega

theorem join_of_fits {s t : Span} (hs : s.Fits) (ht : t.Fits) : s.join t = .ok (s.hull t) := by
  have hsle := s.offset_le_finish
  have htle := t.offset_le_finish
  unfold join
  rw [stop_of_fits hs, stop_of_fits ht]
  split
  · next hle =>
    show ofBounds s.offset (max s.finish t.finish) = .ok (s.hull t)
    rw [ofBounds, if_pos (by omega), hull, Nat.min_eq_left hle]
  · next hlt =>
    show ofBounds t.offset (max t.finish s.finish) = .ok (s.hull t)
    rw [ofBounds, if_pos (by omega), hull, Nat.min_eq_right (by omega), Nat.max_comm]

theorem join_of_not_fits {s t : Span} (h : ¬(s.Fits ∧ t.Fits)) :
    s.join t = .error .overflow := by
  unfold join
  by_cases hs : s.Fits
  · have ht : ¬t.Fits := fun ht => h ⟨hs, ht⟩
    rw [stop_of_fits hs, stop_of_not_fits ht]
    split <;> rfl
  · rw [stop_of_not_fits hs]
    by_cases ht : t.Fits
    · rw [stop_of_fits ht]
      split <;> rfl
    · rw [stop_of_not_fits ht]
      split <;> rfl

/-- The ends of both decide whether there is a join, which then is their hull. -/
theorem join_eq (s t : Span) :
    s.join t = if s.Fits ∧ t.Fits then .ok (s.hull t) else .error .overflow := by
  split
  · next h => exact join_of_fits h.1 h.2
  · next h => exact join_of_not_fits h

theorem join_comm (s t : Span) : s.join t = t.join s := by
  simp only [join_eq, hull_comm s t, and_comm]

theorem join_self (s : Span) : s.join s = if s.Fits then .ok s else .error .overflow := by
  simp only [join_eq, hull_self, and_self]

theorem join_join_eq (s t u : Span) :
    (do (← s.join t).join u) =
      if s.Fits ∧ t.Fits ∧ u.Fits then .ok ((s.hull t).hull u) else .error .overflow := by
  by_cases h : s.Fits ∧ t.Fits
  · rw [join_of_fits h.1 h.2]
    show (s.hull t).join u = _
    simp only [join_eq, fits_hull_iff, and_assoc]
  · rw [join_of_not_fits h, if_neg fun hall => h ⟨hall.1, hall.2.1⟩]
    rfl

theorem join_assoc (s t u : Span) :
    (do (← s.join t).join u) = (do s.join (← t.join u)) := by
  have hhull : (s.hull t).hull u = (t.hull u).hull s := by rw [hull_assoc, hull_comm]
  calc (do (← s.join t).join u)
      = if s.Fits ∧ t.Fits ∧ u.Fits then .ok ((s.hull t).hull u) else .error .overflow :=
        join_join_eq s t u
    _ = if t.Fits ∧ u.Fits ∧ s.Fits then .ok ((t.hull u).hull s) else .error .overflow := by
        simp only [hhull, and_comm, and_left_comm]
    _ = (do (← t.join u).join s) := (join_join_eq t u s).symm
    _ = (do s.join (← t.join u)) := by simp only [join_comm s]

theorem guarded_eq_error_iff {α : Type} {P : Prop} [Decidable P] {a : α} {e : RangeError} :
    (if P then .ok a else .error .overflow : Except RangeError α) = .error e ↔
      e = .overflow ∧ ¬P := by
  by_cases h : P
  · simp [h]
  · simp [h, eq_comm]

theorem join_eq_error_iff {s t : Span} {e : RangeError} :
    s.join t = .error e ↔ e = .overflow ∧ (¬s.Fits ∨ ¬t.Fits) := by
  rw [join_eq, guarded_eq_error_iff, Decidable.not_and_iff_or_not]

theorem join_join_eq_error_iff {s t u : Span} {e : RangeError} :
    (do (← s.join t).join u) = .error e ↔
      e = .overflow ∧ (¬s.Fits ∨ ¬t.Fits ∨ ¬u.Fits) := by
  rw [join_join_eq, guarded_eq_error_iff, Decidable.not_and_iff_or_not,
    Decidable.not_and_iff_or_not]

/-- What covers the span is what covers all its parts. -/
def LeastCover (s : Span) (parts : List Span) : Prop :=
  ∀ u : Span, u.Covers s ↔ ∀ p ∈ parts, u.Covers p

theorem LeastCover.unique {s t : Span} {parts : List Span} (hs : LeastCover s parts)
    (ht : LeastCover t parts) : s = t :=
  covers_antisymm ((ht s).mpr ((hs s).mp (covers_refl s))) ((hs t).mpr ((ht t).mp (covers_refl t)))

theorem LeastCover.perm {s : Span} {parts others : List Span} (h : LeastCover s parts)
    (hperm : parts.Perm others) : LeastCover s others := by
  intro u
  rw [h u]
  simp only [hperm.mem_iff]

theorem least_cover_one (s : Span) : LeastCover s [s] := by
  intro u
  rw [List.forall_mem_singleton]

theorem LeastCover.hull {s t : Span} {parts others : List Span} (hs : LeastCover s parts)
    (ht : LeastCover t others) : LeastCover (s.hull t) (parts ++ others) := by
  intro u
  rw [covers_hull_iff, hs u, ht u, List.forall_mem_append]

/-- Spans joined two by two, in some order and some grouping. -/
inductive JoinTree where
  | one (s : Span)
  | both (left right : JoinTree)
  deriving DecidableEq, Repr

namespace JoinTree

def parts : JoinTree → List Span
  | .one s => [s]
  | .both left right => left.parts ++ right.parts

def value : JoinTree → Except RangeError Span
  | .one s => .ok s
  | .both left right => do (← left.value).join (← right.value)

theorem value_of_fits (tree : JoinTree) (h : ∀ p ∈ tree.parts, p.Fits) :
    ∃ s, tree.value = .ok s ∧ s.Fits ∧ LeastCover s tree.parts := by
  induction tree with
  | one s => exact ⟨s, rfl, h s List.mem_cons_self, least_cover_one s⟩
  | both left right ihleft ihright =>
    rw [parts, List.forall_mem_append] at h
    obtain ⟨s, hs, hsfits, hscover⟩ := ihleft h.1
    obtain ⟨t, ht, htfits, htcover⟩ := ihright h.2
    refine ⟨s.hull t, ?_, fits_hull_iff.mpr ⟨hsfits, htfits⟩, hscover.hull htcover⟩
    rw [value, hs, ht]
    exact join_of_fits hsfits htfits

end JoinTree

/-- Where the ends of two spans fit, their join is the least span that covers both. Joins fail
for an end that does not fit and for nothing else, in whatever order and grouping they are
made. -/
theorem join_least_cover :
    (∀ a b : Span, ∀ e, a.join b = .error e ↔ e = .overflow ∧ (¬a.Fits ∨ ¬b.Fits)) ∧
    (∀ a b : Span, a.Fits → b.Fits → ∃ s, a.join b = .ok s ∧
      s.offset = min a.offset b.offset ∧
      (∃ m n, a.stop = .ok m ∧ b.stop = .ok n ∧ s.stop = .ok (max m n)) ∧
      s.Covers a ∧ s.Covers b ∧ ∀ u : Span, u.Covers a → u.Covers b → u.Covers s) ∧
    (∀ a b : Span, a.join b = b.join a) ∧
    (∀ a b c : Span, (do (← a.join b).join c) = (do a.join (← b.join c)) ∧
      ∀ e, (do (← a.join b).join c) = .error e ↔
        e = .overflow ∧ (¬a.Fits ∨ ¬b.Fits ∨ ¬c.Fits)) ∧
    ∀ a : Span, a.Fits → a.join a = .ok a := by
  refine ⟨fun a b e => join_eq_error_iff, ?least, join_comm, ?three, ?self⟩
  case least =>
    intro a b ha hb
    have hcovers : (a.hull b).Covers a ∧ (a.hull b).Covers b :=
      covers_hull_iff.mp (covers_refl _)
    refine ⟨a.hull b, join_of_fits ha hb, rfl, ?_, hcovers.1, hcovers.2, ?_⟩
    · refine ⟨a.finish, b.finish, stop_of_fits ha, stop_of_fits hb, ?_⟩
      rw [stop_of_fits (fits_hull_iff.mpr ⟨ha, hb⟩), finish_hull]
    · intro u hua hub
      exact covers_hull_iff.mpr ⟨hua, hub⟩
  case three =>
    intro a b c
    exact ⟨join_assoc a b c, fun e => join_join_eq_error_iff⟩
  case self =>
    intro a ha
    rw [join_self, if_pos ha]

theorem join_least_cover_gap :
    Fits ⟨18446744073709551613, 2⟩ ∧ Fits ⟨20, 5⟩ ∧
    (∃ s, join ⟨18446744073709551613, 2⟩ ⟨20, 5⟩ = .ok s ∧ s.offset = 20 ∧
      (∃ m n, stop ⟨18446744073709551613, 2⟩ = .ok m ∧ stop ⟨20, 5⟩ = .ok n ∧
        s.stop = .ok (max m n)) ∧
      s.Covers ⟨18446744073709551613, 2⟩ ∧ s.Covers ⟨20, 5⟩ ∧
      ∀ u : Span, u.Covers ⟨18446744073709551613, 2⟩ → u.Covers ⟨20, 5⟩ → u.Covers s) ∧
    join ⟨18446744073709551613, 2⟩ ⟨18446744073709551613, 2⟩ =
      .ok ⟨18446744073709551613, 2⟩ :=
  ⟨by decide, by decide, join_least_cover.2.1 _ _ (by decide) (by decide),
    join_least_cover.2.2.2.2 _ (by decide)⟩

end Span

end ArmTokens
