import Tether.Text.Decimal

/-!
Spans of time, counted in nanoseconds. Options give them in whole seconds, timers run on whole
milliseconds, and diagnostics show them as decimal seconds.
-/

namespace Tether.Time

open Tether.Text

/-- A span of time. -/
structure Span where
  nanos : Nat
  deriving DecidableEq, Repr

namespace Span

/-- A span of whole seconds. -/
def ofSeconds (n : Nat) : Span := ⟨n * 1000000000⟩

/-- A span of whole milliseconds. -/
def ofMillis (n : Nat) : Span := ⟨n * 1000000⟩

/-- The whole seconds in a span. -/
def seconds (s : Span) : Nat := s.nanos / 1000000000

/-- The whole milliseconds in a span. -/
def millis (s : Span) : Nat := s.nanos / 1000000

/-- The milliseconds that a timer for the span runs: a begun millisecond counts. -/
def ticks (s : Span) : Nat := (999999 + s.nanos) / 1000000

instance : Add Span := ⟨fun s t => ⟨s.nanos + t.nanos⟩⟩

/-- The span has no length. -/
def isZero (s : Span) : Bool := s.nanos == 0

/-- The span as decimal seconds, the way a double holds them. -/
def secondsText (s : Span) : String :=
  Text.secondsText
    (s.seconds.toUInt64.toFloat + (s.nanos % 1000000000).toUInt64.toFloat / 1000000000.0)

@[simp] theorem isZero_iff (s : Span) : s.isZero = true ↔ s.nanos = 0 := by simp [isZero]

@[simp] theorem nanos_add (s t : Span) : (s + t).nanos = s.nanos + t.nanos := rfl

@[simp] theorem nanos_ofMillis (n : Nat) : (ofMillis n).nanos = n * 1000000 := rfl

/-- A timer is over in the first millisecond that is not too early. -/
theorem nanos_le_ticks (s : Span) : s.nanos ≤ s.ticks * 1000000 := by
  unfold ticks
  omega

theorem ticks_lt_nanos (s : Span) : s.ticks * 1000000 < s.nanos + 1000000 := by
  unfold ticks
  omega

theorem ticks_mono {s t : Span} (h : s.nanos ≤ t.nanos) : s.ticks ≤ t.ticks := by
  unfold ticks
  omega

@[simp] theorem ticks_ofMillis (n : Nat) : (ofMillis n).ticks = n := by
  simp only [ticks, ofMillis]; omega

@[simp] theorem millis_ofMillis (n : Nat) : (ofMillis n).millis = n := by
  simp only [millis, ofMillis]; omega

@[simp] theorem seconds_ofSeconds (n : Nat) : (ofSeconds n).seconds = n := by
  simp only [seconds, ofSeconds]; omega

end Span

end Tether.Time
