/-!
# Spans of time

Differences between instants, exact to the nanosecond.  A span reaches as far as a count of
milliseconds in 63 bits does, in either direction.
-/

namespace SessionAuth
namespace Time

def nanosPerSecond : Int := 1000000000

def maxSpanNanos : Int := 9223372036854775807000000

structure Span where
  nanos : Int
  bounded : -maxSpanNanos ≤ nanos ∧ nanos ≤ maxSpanNanos
deriving DecidableEq

namespace Span

def ofNanos? (n : Int) : Option Span :=
  if h : -maxSpanNanos ≤ n ∧ n ≤ maxSpanNanos then some ⟨n, h⟩ else none

def ofSeconds? (n : Int) : Option Span :=
  ofNanos? (n * nanosPerSecond)

def ofMinutes? (n : Int) : Option Span :=
  ofSeconds? (60 * n)

def ofDays? (n : Int) : Option Span :=
  ofSeconds? (86400 * n)

def zero : Span :=
  ⟨0, by decide⟩

def seconds (d : Span) : Int :=
  d.nanos.tdiv nanosPerSecond

@[simp] theorem nanos_zero : zero.nanos = 0 := rfl

theorem ofNanos?_eq_some {n : Int} {d : Span} : ofNanos? n = some d ↔ d.nanos = n := by
  unfold ofNanos?
  constructor
  · intro h
    split at h
    · cases h; rfl
    · cases h
  · rintro rfl
    simp [d.bounded]

end Span

end Time
end SessionAuth
