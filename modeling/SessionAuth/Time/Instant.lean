import SessionAuth.Time.Span

/-!
# Instants

Points of universal time, exact to the nanosecond, counted from the start of the year 1970.  The
calendar has a first and a last instant, and a sum that leaves it is refused.
-/

namespace SessionAuth
namespace Time

def minInstantNanos : Int := -8334601228800 * nanosPerSecond

/-- The last instant of the calendar: a nanosecond before the end of the year 262142. -/
def maxInstantNanos : Int := 8210266876799 * nanosPerSecond + 999999999

structure Instant where
  nanos : Int
  inCalendar : minInstantNanos ≤ nanos ∧ nanos ≤ maxInstantNanos
deriving DecidableEq

namespace Instant

def ofNanos? (n : Int) : Option Instant :=
  if h : minInstantNanos ≤ n ∧ n ≤ maxInstantNanos then some ⟨n, h⟩ else none

def ofSeconds? (n : Int) : Option Instant :=
  ofNanos? (n * nanosPerSecond)

def latest : Instant :=
  ⟨maxInstantNanos, by decide⟩

def epoch : Instant :=
  ⟨0, by decide⟩

instance : LE Instant := ⟨fun s t => s.nanos ≤ t.nanos⟩

instance : LT Instant := ⟨fun s t => s.nanos < t.nanos⟩

instance (s t : Instant) : Decidable (s ≤ t) := inferInstanceAs (Decidable (s.nanos ≤ t.nanos))

instance (s t : Instant) : Decidable (s < t) := inferInstanceAs (Decidable (s.nanos < t.nanos))

def seconds (t : Instant) : Int :=
  t.nanos.fdiv nanosPerSecond

def add? (t : Instant) (d : Span) : Option Instant :=
  ofNanos? (t.nanos + d.nanos)

theorem le_def (s t : Instant) : s ≤ t ↔ s.nanos ≤ t.nanos := Iff.rfl

theorem ext {s t : Instant} (h : s.nanos = t.nanos) : s = t := by
  cases s; cases t; cases h; rfl

theorem ofNanos?_eq_some {n : Int} {t : Instant} : ofNanos? n = some t ↔ t.nanos = n := by
  unfold ofNanos?
  constructor
  · intro h
    split at h
    · cases h; rfl
    · cases h
  · rintro rfl
    simp [t.inCalendar]

theorem add?_eq_some {t u : Instant} {d : Span} :
    t.add? d = some u ↔ u.nanos = t.nanos + d.nanos :=
  ofNanos?_eq_some

end Instant

end Time
end SessionAuth
