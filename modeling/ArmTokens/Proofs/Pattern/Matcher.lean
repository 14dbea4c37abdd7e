import ArmTokens.Pattern.Run
import ArmTokens.Pattern.CharClass

/-!
# Matchers and the text behind a match

A matcher tells how many characters it takes from the start of a text. It
settles when a match that ends before the end of a text stays when the text goes
on, and is there already when the text is cut behind it. It grows when a match
up to the very end of a text stays a match, perhaps a longer one. It avoids a
character when no match has that character in it.
-/

set_option autoImplicit false

namespace ArmTokens

structure Settles (f : List Char → Option Nat) : Prop where
  cut : ∀ {w z : List Char} {n : Nat}, f (w ++ z) = some n → n ≤ w.length → f w = some n
  extend : ∀ {w : List Char} {n : Nat} (z : List Char), f w = some n → n < w.length →
    f (w ++ z) = some n

structure Grows (f : List Char → Option Nat) : Prop extends Settles f where
  grow : ∀ {w : List Char} {n : Nat} (z : List Char), f w = some n → w.length ≤ n →
    ∃ n', w.length ≤ n' ∧ f (w ++ z) = some n'

/-- No match of the matcher goes over the character. -/
def Avoids (a : Char) (f : List Char → Option Nat) : Prop :=
  ∀ (cs : List Char) (n : Nat), f cs = some n → a ∉ cs.take n

def OnOneLine (f : List Char → Option Nat) : Prop :=
  ∀ (cs : List Char) (n : Nat), f cs = some n → ∀ c ∈ cs.take n, isLineEnd c = false

/-- One character, and then what a matcher of its own takes. -/
def byHead (k : Char → List Char → Option Nat) : List Char → Option Nat
  | [] => none
  | c :: cs => (k c cs).map (1 + ·)

def headed (a : Char) (f : List Char → Option Nat) : List Char → Option Nat :=
  byHead fun c cs => if c = a then f cs else none

/-- What one matcher takes, and behind it what the other takes. -/
def inTurn (f g : List Char → Option Nat) (cs : List Char) : Option Nat :=
  (f cs).bind fun n => (g (cs.drop n)).map (n + ·)

theorem by_head_some {k : Char → List Char → Option Nat} {cs : List Char} {n : Nat}
    (h : byHead k cs = some n) :
    ∃ c tail m, cs = c :: tail ∧ k c tail = some m ∧ n = 1 + m := by
  cases cs with
  | nil => simp [byHead] at h
  | cons c tail =>
    obtain ⟨m, hm, rfl⟩ := Option.map_eq_some_iff.mp h
    exact ⟨c, tail, m, rfl, hm, rfl⟩

theorem headed_cons (a : Char) (f : List Char → Option Nat) (cs : List Char) :
    headed a f (a :: cs) = (f cs).map (1 + ·) := by
  rw [headed, byHead, if_pos rfl]

theorem eq_headed {f g : List Char → Option Nat} {a : Char} (hnil : f [] = none)
    (hhead : ∀ cs, f (a :: cs) = (g cs).map (1 + ·)) (hother : ∀ c cs, c ≠ a → f (c :: cs) = none) :
    f = headed a g := by
  ext cs : 1
  cases cs with
  | nil => exact hnil
  | cons c cs =>
    rw [headed, byHead]
    by_cases hc : c = a
    · rw [if_pos hc, hc, hhead]
    · rw [if_neg hc, hother c cs hc]
      rfl

theorem in_turn_some {f g : List Char → Option Nat} {cs : List Char} {n : Nat}
    (h : inTurn f g cs = some n) :
    ∃ a b, f cs = some a ∧ g (cs.drop a) = some b ∧ n = a + b := by
  obtain ⟨a, ha, h⟩ := Option.bind_eq_some_iff.mp h
  obtain ⟨b, hb, rfl⟩ := Option.map_eq_some_iff.mp h
  exact ⟨a, b, ha, hb, rfl⟩

theorem lt_of_drop_some {g : List Char → Option Nat} (hnil : g [] = none) {cs : List Char}
    {a b : Nat} (h : g (cs.drop a) = some b) : a < cs.length := by
  by_cases hlt : a < cs.length
  · exact hlt
  · rw [List.drop_eq_nil_of_le (by omega), hnil] at h
    cases h

theorem of_mem_run {p : Char → Bool} {cs : List Char} {n : Nat} (hle : n ≤ runLength p cs)
    {c : Char} (hc : c ∈ cs.take n) : p c = true := by
  have hrun : c ∈ cs.takeWhile p := by
    rw [← take_run_length]
    exact List.take_subset_take_left cs hle hc
  exact List.all_eq_true.mp List.all_takeWhile c hrun

theorem run_append (p : Char → Bool) (w z : List Char) :
    runLength p (w ++ z) =
      if runLength p w = w.length then w.length + runLength p z else runLength p w := by
  rw [runLength, runLength, runLength, List.takeWhile_append]
  split
  · rw [List.length_append]
  · rfl

theorem le_run {p : Char → Bool} {u : List Char} (hu : ∀ c ∈ u, p c = true) (v : List Char) :
    u.length ≤ runLength p (u ++ v) := by
  rw [runLength, List.takeWhile_append_of_pos hu, List.length_append]
  exact Nat.le_add_right _ _

theorem run_exact {p : Char → Bool} {u v : List Char} (hu : ∀ c ∈ u, p c = true)
    (hv : ∀ c ∈ v.head?, p c = false) : runLength p (u ++ v) = u.length := by
  rw [runLength, List.takeWhile_append_of_pos hu]
  cases v with
  | nil => rw [List.takeWhile_nil, List.append_nil]
  | cons c v =>
    have hc : ¬p c = true := Bool.eq_false_iff.mp (hv c rfl)
    rw [List.takeWhile_cons_of_neg hc, List.append_nil]

namespace Settles

theorem by_head {k : Char → List Char → Option Nat} (hk : ∀ c, Settles (k c)) :
    Settles (byHead k) := by
  constructor
  · intro w z n h hle
    obtain ⟨c, tail, m, hcs, hm, rfl⟩ := by_head_some h
    cases w with
    | nil =>
      rw [List.length_nil] at hle
      omega
    | cons d w =>
      obtain ⟨rfl, rfl⟩ := List.cons.inj hcs
      rw [List.length_cons] at hle
      rw [byHead, (hk d).cut hm (by omega)]
      rfl
  · intro w n z h hlt
    obtain ⟨c, w, m, rfl, hm, rfl⟩ := by_head_some h
    rw [List.length_cons] at hlt
    rw [List.cons_append, byHead, (hk c).extend z hm (by omega)]
    rfl

theorem headed {f : List Char → Option Nat} (hf : Settles f) (a : Char) : Settles (headed a f) := by
  apply Settles.by_head
  intro c
  by_cases hc : c = a
  · simp only [if_pos hc]
    exact hf
  · simp only [if_neg hc]
    exact ⟨fun h _ => h, fun _ h _ => h⟩

end Settles

namespace Grows

theorem by_head {k : Char → List Char → Option Nat} (hk : ∀ c, Grows (k c)) :
    Grows (byHead k) := by
  refine ⟨Settles.by_head fun c => (hk c).toSettles, ?_⟩
  intro w n z h hle
  obtain ⟨c, w, m, rfl, hm, rfl⟩ := by_head_some h
  rw [List.length_cons] at hle
  obtain ⟨m', hle', hm'⟩ := (hk c).grow z hm (by omega)
  refine ⟨1 + m', by rw [List.length_cons]; omega, ?_⟩
  rw [List.cons_append, byHead, hm']
  rfl

/-- Only a second matcher that takes something keeps the first from growing. -/
theorem in_turn {f g : List Char → Option Nat} (hf : Grows f) (hg : Grows g) (hnil : g [] = none) :
    Grows (inTurn f g) := by
  refine ⟨⟨?cut, ?extend⟩, ?grow⟩
  case cut =>
    intro w z n h hle
    obtain ⟨a, b, ha, hb, rfl⟩ := in_turn_some h
    rw [List.drop_append_of_le_length (by omega)] at hb
    have hb := hg.cut hb (by rw [List.length_drop]; omega)
    rw [inTurn, hf.cut ha (by omega), Option.bind_some, hb]
    rfl
  case extend =>
    intro w n z h hlt
    obtain ⟨a, b, ha, hb, rfl⟩ := in_turn_some h
    have hb' := hg.extend z hb (by rw [List.length_drop]; omega)
    rw [inTurn, hf.extend z ha (by omega), Option.bind_some,
      List.drop_append_of_le_length (by omega), hb']
    rfl
  case grow =>
    intro w n z h hle
    obtain ⟨a, b, ha, hb, rfl⟩ := in_turn_some h
    have hlt := lt_of_drop_some hnil hb
    obtain ⟨b', hle', hb'⟩ := hg.grow z hb (by rw [List.length_drop]; omega)
    rw [List.length_drop] at hle'
    refine ⟨a + b', by omega, ?_⟩
    rw [inTurn, hf.extend z ha hlt, Option.bind_some,
      List.drop_append_of_le_length (by omega), hb']
    rfl

theorem never : Grows fun _ => none := by
  refine ⟨⟨?_, ?_⟩, ?_⟩ <;> intros <;> contradiction

theorem guard {f : List Char → Option Nat} (p : Prop) [Decidable p] (hf : Grows f) :
    Grows fun cs => if p then f cs else none := by
  by_cases hp : p
  · simp only [if_pos hp]
    exact hf
  · simp only [if_neg hp]
    exact never

theorem headed {f : List Char → Option Nat} (hf : Grows f) (a : Char) : Grows (headed a f) := by
  apply Grows.by_head
  intro c
  exact Grows.guard (c = a) hf

theorem nothing : Grows fun _ => some 0 := by
  refine ⟨⟨fun h _ => h, fun _ h _ => h⟩, ?_⟩
  intro w n z h hle
  cases h
  exact ⟨0, hle, rfl⟩

theorem run (p : Char → Bool) : Grows fun cs => some (runLength p cs) := by
  refine ⟨⟨?cut, ?extend⟩, ?grow⟩
  case cut =>
    intro w z n h hle
    have hr := run_length_le p w
    rw [run_append, Option.some.injEq] at h
    rw [Option.some.injEq]
    split at h <;> omega
  case extend =>
    intro w n z h hlt
    rw [Option.some.injEq] at h
    rw [run_append, if_neg (by omega), h]
  case grow =>
    intro w n z h hle
    have hr := run_length_le p w
    rw [Option.some.injEq] at h
    rw [run_append, if_pos (by omega)]
    exact ⟨w.length + runLength p z, by omega, rfl⟩

theorem run_up_to (p : Char → Bool) {lo hi : Nat} (hlo : lo ≤ hi) :
    Grows fun cs => if lo ≤ runLength p cs then some (min hi (runLength p cs)) else none := by
  refine ⟨⟨?cut, ?extend⟩, ?grow⟩
  case cut =>
    intro w z n h hle
    have hr := run_length_le p w
    rw [run_append, Option.ite_none_right_eq_some, Option.some.injEq] at h
    rw [Option.ite_none_right_eq_some, Option.some.injEq]
    split at h <;> omega
  case extend =>
    intro w n z h hlt
    rw [Option.ite_none_right_eq_some, Option.some.injEq] at h
    rw [run_append, Option.ite_none_right_eq_some, Option.some.injEq]
    split <;> omega
  case grow =>
    intro w n z h hle
    have hr := run_length_le p w
    rw [Option.ite_none_right_eq_some, Option.some.injEq] at h
    refine ⟨min hi (runLength p (w ++ z)), ?_, if_pos ?_⟩ <;> rw [run_append, if_pos (by omega)] <;>
      omega

end Grows

namespace Avoids

variable {a : Char}

theorem by_head {k : Char → List Char → Option Nat} (hk : ∀ c, Avoids a (k c))
    (hhead : ∀ cs, k a cs = none) : Avoids a (byHead k) := by
  intro cs n h ha
  obtain ⟨c, tail, m, rfl, hm, rfl⟩ := by_head_some h
  rw [Nat.add_comm, List.take_succ_cons] at ha
  rcases List.mem_cons.mp ha with rfl | ha
  · rw [hhead] at hm
    cases hm
  · exact hk c _ _ hm ha

theorem in_turn {f g : List Char → Option Nat} (hf : Avoids a f) (hg : Avoids a g) :
    Avoids a (inTurn f g) := by
  intro cs n h ha
  obtain ⟨b, d, hb, hd, rfl⟩ := in_turn_some h
  rw [List.take_add] at ha
  rcases List.mem_append.mp ha with ha | ha
  · exact hf _ _ hb ha
  · exact hg _ _ hd ha

theorem never : Avoids a fun _ => none := by
  intro cs n h
  cases h

theorem nothing : Avoids a fun _ => some 0 := by
  intro cs n h
  cases h
  simp

theorem guard {f : List Char → Option Nat} (p : Prop) [Decidable p] (hf : Avoids a f) :
    Avoids a fun cs => if p then f cs else none := by
  intro cs n h
  exact hf cs n (Option.ite_none_right_eq_some.mp h).2

theorem in_class {p : Char → Bool} (hp : p a = false) {f : List Char → Option Nat}
    (hf : Avoids a f) : Avoids a (byHead fun c cs => if p c then f cs else none) := by
  apply Avoids.by_head
  · intro c
    exact Avoids.guard (p c) hf
  · intro cs
    rw [hp]
    rfl

theorem headed {f : List Char → Option Nat} (hf : Avoids a f) {b : Char} (hb : a ≠ b) :
    Avoids a (headed b f) := by
  apply Avoids.by_head
  · intro c
    exact Avoids.guard (c = b) hf
  · intro cs
    exact if_neg hb

theorem run {p : Char → Bool} (hp : p a = false) : Avoids a fun cs => some (runLength p cs) := by
  intro cs n h ha
  rw [Option.some.injEq] at h
  have hin : p a = true := of_mem_run (by omega) ha
  rw [hp] at hin
  cases hin

theorem run_up_to {p : Char → Bool} (hp : p a = false) (lo hi : Nat) :
    Avoids a fun cs => if lo ≤ runLength p cs then some (min hi (runLength p cs)) else none := by
  intro cs n h ha
  rw [Option.ite_none_right_eq_some, Option.some.injEq] at h
  have hin : p a = true := of_mem_run (by omega) ha
  rw [hp] at hin
  cases hin

theorem on_one_line {f : List Char → Option Nat} (hfeed : Avoids '\n' f)
    (hreturn : Avoids '\r' f) : OnOneLine f := by
  intro cs n h c hc
  rw [← Bool.not_eq_true]
  intro hline
  rcases is_line_end_iff.mp hline with rfl | rfl
  · exact hfeed cs n h hc
  · exact hreturn cs n h hc

end Avoids

theorem one_of_eq (p : Char → Bool) :
    oneOf? p = byHead fun c _ => if p c then some 0 else none := by
  ext cs : 1
  cases cs with
  | nil => rfl
  | cons c cs =>
    rw [oneOf?, byHead]
    split <;> rfl

theorem run_some_eq (p : Char → Bool) :
    runLength? p = byHead fun c cs => if p c then some (runLength p cs) else none := by
  ext cs : 1
  cases cs with
  | nil => rfl
  | cons c cs =>
    by_cases hc : p c
    · simp [runLength?, runLength, byHead, hc, Nat.add_comm]
    · simp [runLength?, runLength, byHead, hc]

theorem run_none_iff {p : Char → Bool} {c : Char} {cs : List Char} :
    runLength? p (c :: cs) = none ↔ p c = false := by
  rw [run_some_eq, byHead]
  cases p c <;> simp

theorem one_of_none_iff {p : Char → Bool} {c : Char} (cs : List Char) :
    oneOf? p (c :: cs) = none ↔ p c = false := by
  rw [oneOf?]
  cases p c <;> simp

theorem grows_one_of (p : Char → Bool) : Grows (oneOf? p) := by
  rw [one_of_eq]
  apply Grows.by_head
  intro c
  exact Grows.guard (p c) Grows.nothing

theorem grows_run (p : Char → Bool) : Grows (runLength? p) := by
  rw [run_some_eq]
  apply Grows.by_head
  intro c
  exact Grows.guard (p c) (Grows.run p)

theorem avoids_one_of {a : Char} {p : Char → Bool} (hp : p a = false) : Avoids a (oneOf? p) := by
  rw [one_of_eq]
  exact Avoids.in_class hp Avoids.nothing

theorem avoids_run {a : Char} {p : Char → Bool} (hp : p a = false) : Avoids a (runLength? p) := by
  rw [run_some_eq]
  exact Avoids.in_class hp (Avoids.run hp)

end ArmTokens
