import ArmTokens.Text.Bytes

/-!
# Byte ranges of a source text

A span holds where a piece of text starts and how many bytes it has. Offsets
are 64-bit words, so the end of a span exists only while `offset + len` fits
into one. The join of two spans is the smallest span that covers both.
-/

set_option autoImplicit false

namespace ArmTokens

/-- Two to the power of 64. Every byte offset is smaller. -/
def offsetLimit : Nat := 18446744073709551616

inductive RangeError where
  | overflow
  | reversed
  | offBoundary
  deriving DecidableEq, Repr

def RangeError.message : RangeError → String
  | .overflow => "attempt to add with overflow"
  | .reversed => "assertion failed: start <= end"
  | .offBoundary => "range is not on character boundaries"

structure Span where
  offset : Nat
  len : Nat
  deriving DecidableEq, Repr, Ord, Inhabited

namespace Span

def zero : Span := ⟨0, 0⟩

def isEmpty (s : Span) : Bool := s.len == 0

def stop (s : Span) : Except RangeError Nat :=
  if s.offset + s.len < offsetLimit then .ok (s.offset + s.len) else .error .overflow

def range (s : Span) : Except RangeError (Nat × Nat) := do
  return (s.offset, ← s.stop)

def ofBounds (start stop : Nat) : Except RangeError Span :=
  if start ≤ stop then .ok ⟨start, stop - start⟩ else .error .reversed

/-- The smallest span that covers both. It starts where the first of the two
starts and stops where the later one stops. -/
def join (s t : Span) : Except RangeError Span :=
  if s.offset ≤ t.offset then do
    ofBounds s.offset (max (← s.stop) (← t.stop))
  else do
    ofBounds t.offset (max (← t.stop) (← s.stop))

/-- The bytes of a text under the span, when it covers whole characters of it. -/
def slice? (s : Span) (text : String) : Except RangeError (Option String) := do
  let (start, stop) ← s.range
  return (ArmTokens.slice? text.toList start stop).map String.ofList

theorem stop_eq_ok_iff {s : Span} {n : Nat} :
    s.stop = .ok n ↔ s.offset + s.len = n ∧ n < offsetLimit := by
  unfold stop
  split
  · simp only [Except.ok.injEq]
    omega
  · simp only [reduceCtorEq, false_iff]
    omega

theorem stop_eq_error_iff {s : Span} {e : RangeError} :
    s.stop = .error e ↔ e = .overflow ∧ offsetLimit ≤ s.offset + s.len := by
  unfold stop
  split
  · simp only [reduceCtorEq, false_iff]
    omega
  · simp only [Except.error.injEq, eq_comm]
    exact ⟨fun h => ⟨h, by omega⟩, fun h => h.1⟩

end Span

end ArmTokens
