/-!
# Spans of time

A span is a number of nanoseconds. Sums are bounded: the whole seconds of a span stay below `2 ^ 64`,
and `Span.add?` has no answer beyond.
-/

namespace LteUe

/-- A length of time, exact to the nanosecond. -/
structure Span where
  nanos : Nat
deriving DecidableEq, Repr, Inhabited

namespace Span

def perSecond : Nat := 1000000000

def zero : Span := ⟨0⟩

def ofParts (secs nanos : Nat) : Span := ⟨secs * perSecond + nanos⟩

def ofMillis (ms : Nat) : Span := ⟨ms * 1000000⟩

def secs (s : Span) : Nat := s.nanos / perSecond

def subsecNanos (s : Span) : Nat := s.nanos % perSecond

def micros (s : Span) : Nat := s.nanos / 1000

instance : LT Span := ⟨fun a b => a.nanos < b.nanos⟩

instance : LE Span := ⟨fun a b => a.nanos ≤ b.nanos⟩

instance (a b : Span) : Decidable (a < b) := inferInstanceAs (Decidable (a.nanos < b.nanos))

instance (a b : Span) : Decidable (a ≤ b) := inferInstanceAs (Decidable (a.nanos ≤ b.nanos))

instance : Max Span := ⟨fun a b => ⟨max a.nanos b.nanos⟩⟩

instance : Min Span := ⟨fun a b => ⟨min a.nanos b.nanos⟩⟩

/-- The sum of two spans, without a bound. -/
instance : Add Span := ⟨fun a b => ⟨a.nanos + b.nanos⟩⟩

/-- What `a` exceeds `b` by; no length if it does not. -/
instance : Sub Span := ⟨fun a b => ⟨a.nanos - b.nanos⟩⟩

/-- A span that can be written down has fewer than `2 ^ 64` whole seconds. -/
def InRange (s : Span) : Prop := s.secs < UInt64.size

instance (s : Span) : Decidable s.InRange := inferInstanceAs (Decidable (_ < _))

/-- The sum of two spans, if it is in range. -/
def add? (a b : Span) : Option Span :=
  if (a + b).InRange then some (a + b) else none

theorem lt_iff {a b : Span} : a < b ↔ a.nanos < b.nanos := Iff.rfl

theorem le_iff {a b : Span} : a ≤ b ↔ a.nanos ≤ b.nanos := Iff.rfl

@[simp] theorem nanos_add (a b : Span) : (a + b).nanos = a.nanos + b.nanos := rfl

@[simp] theorem nanos_sub (a b : Span) : (a - b).nanos = a.nanos - b.nanos := rfl

@[simp] theorem nanos_max (a b : Span) : (max a b).nanos = max a.nanos b.nanos := rfl

@[simp] theorem nanos_min (a b : Span) : (min a b).nanos = min a.nanos b.nanos := rfl

@[simp] theorem nanos_zero : zero.nanos = 0 := rfl

theorem add?_eq_some_iff {a b c : Span} : a.add? b = some c ↔ (a + b).InRange ∧ a + b = c := by
  simp [add?]

end Span

end LteUe
