import SessionAuth.Refresh.Record

/-!
# Lifetimes of records

A record expires when its lifetime is over, and at the end of the calendar if that comes first.
A lifetime that leads out of the calendar at its other end is mistaken for an endless one.
-/

namespace SessionAuth

open Time

namespace Time.Instant

def earliest : Instant :=
  ⟨minInstantNanos, by decide⟩

theorem minInstantNanos_lt_max : minInstantNanos < maxInstantNanos := by decide

/-- The instant of the calendar that is nearest to a number of nanoseconds after the start of
1970. -/
def clamp (n : Int) : Instant :=
  ⟨max minInstantNanos (min n maxInstantNanos), by
    have hcalendar := minInstantNanos_lt_max
    omega⟩

theorem nanos_clamp (n : Int) :
    (clamp n).nanos = max minInstantNanos (min n maxInstantNanos) := rfl

theorem clamp_of_lt {n : Int} (h : n < minInstantNanos) : clamp n = earliest := by
  apply ext
  rw [nanos_clamp]
  change _ = minInstantNanos
  omega

theorem clamp_of_gt {n : Int} (h : maxInstantNanos < n) : clamp n = latest := by
  have hcalendar := minInstantNanos_lt_max
  apply ext
  rw [nanos_clamp]
  change _ = maxInstantNanos
  omega

theorem clamp_mono {m n : Int} (h : m ≤ n) : clamp m ≤ clamp n := by
  rw [le_def, nanos_clamp, nanos_clamp]
  omega

theorem earliest_ne_latest : earliest ≠ latest := by decide

theorem latest_le_iff {t : Instant} : latest ≤ t ↔ t = latest := by
  constructor
  · intro h
    have hend : maxInstantNanos ≤ t.nanos := h
    exact ext (Int.le_antisymm t.inCalendar.right hend)
  · rintro rfl
    exact Int.le_refl _

end Time.Instant

namespace Refresh

variable {now : Instant} {d d' : Span}

/-! # Sums of an instant and a lifetime -/

theorem expiry_of_nanos {u : Instant} (h : u.nanos = now.nanos + d.nanos) : expiry now d = u := by
  unfold expiry
  rw [Instant.add?_eq_some.mpr h]
  rfl

theorem expiry_of_outside (h : ∀ u : Instant, u.nanos ≠ now.nanos + d.nanos) :
    expiry now d = .latest := by
  have hnone : now.add? d = none := by
    rw [Option.eq_none_iff_forall_ne_some]
    intro u hu
    exact h u (Instant.add?_eq_some.mp hu)
  unfold expiry
  rw [hnone]
  rfl

theorem expiry_of_lt (h : now.nanos + d.nanos < minInstantNanos) : expiry now d = .latest := by
  apply expiry_of_outside
  intro u
  have hstart := u.inCalendar.left
  omega

theorem expiry_eq_clamp (h : minInstantNanos ≤ now.nanos + d.nanos) :
    expiry now d = .clamp (now.nanos + d.nanos) := by
  by_cases hend : now.nanos + d.nanos ≤ maxInstantNanos
  · apply expiry_of_nanos
    rw [Instant.nanos_clamp]
    omega
  · rw [Instant.clamp_of_gt (Int.not_le.mp hend)]
    apply expiry_of_outside
    intro u
    have hlast := u.inCalendar.right
    omega

theorem expiry_eq_clamp_iff :
    expiry now d = .clamp (now.nanos + d.nanos) ↔ minInstantNanos ≤ now.nanos + d.nanos := by
  constructor
  · intro h
    apply Int.not_lt.mp
    intro hlt
    rw [expiry_of_lt hlt, Instant.clamp_of_lt hlt] at h
    exact Instant.earliest_ne_latest h.symm
  · exact expiry_eq_clamp

/-- A longer lifetime never leads to an earlier expiry, unless the shorter one leads to a time
before the calendar. -/
theorem expiry_mono (hstart : minInstantNanos ≤ now.nanos + d.nanos) (h : d.nanos ≤ d'.nanos) :
    expiry now d ≤ expiry now d' := by
  rw [expiry_eq_clamp hstart, expiry_eq_clamp (by omega)]
  exact Instant.clamp_mono (by omega)

theorem expiry_le_of_nonpos (hstart : minInstantNanos ≤ now.nanos + d.nanos) (h : d.nanos ≤ 0) :
    expiry now d ≤ now := by
  have hend := now.inCalendar.right
  rw [expiry_eq_clamp hstart, Instant.le_def, Instant.nanos_clamp]
  omega

/-! # Records -/

/-- A record that was issued at an instant for a lifetime. -/
def Record.IssuedFor (r : Record) (now : Instant) (d : Span) : Prop :=
  ∃ id subject family generation secret, r = .issue now id subject family generation secret d

variable {r r' : Record}

theorem Record.IssuedFor.createdAt (h : r.IssuedFor now d) : r.createdAt = now := by
  rcases h with ⟨id, subject, family, generation, secret, rfl⟩
  rfl

theorem Record.IssuedFor.expiresAt (h : r.IssuedFor now d) : r.expiresAt = expiry now d := by
  rcases h with ⟨id, subject, family, generation, secret, rfl⟩
  rfl

theorem Record.isExpired_iff {later : Instant} : r.isExpired later = true ↔ r.expiresAt ≤ later :=
  decide_eq_true_iff

/-- A record expires at the sum of the instant of its issue and its lifetime, clamped to the
calendar, just if this sum is not before the calendar; otherwise it expires with the calendar.
Among the lifetimes that do not lead to a time before the calendar, a longer one never leads to an
earlier expiry.  A record whose lifetime is not positive has expired whenever it is asked for after
its issue, just if its lifetime does not lead to a time before the calendar or the calendar has come
to its end. -/
theorem lifetime_followed (h : r.IssuedFor now d) :
    (r.expiresAt = .clamp (r.createdAt.nanos + d.nanos) ↔
      minInstantNanos ≤ r.createdAt.nanos + d.nanos) ∧
    (r.createdAt.nanos + d.nanos < minInstantNanos → r.expiresAt = .latest) ∧
    (∀ (d' : Span) (r' : Record), r'.IssuedFor now d' → d.nanos ≤ d'.nanos →
      minInstantNanos ≤ r.createdAt.nanos + d.nanos → r.expiresAt ≤ r'.expiresAt) ∧
    (d.nanos ≤ 0 → ∀ later, r.createdAt ≤ later →
      (r.isExpired later = true ↔
        minInstantNanos ≤ r.createdAt.nanos + d.nanos ∨ later = .latest)) := by
  rw [h.createdAt, h.expiresAt]
  refine ⟨expiry_eq_clamp_iff, expiry_of_lt, ?_, ?_⟩
  · intro d' r' h' hle hstart
    rw [h'.expiresAt]
    exact expiry_mono hstart hle
  · intro hnonpos later hlater
    rw [Record.isExpired_iff, h.expiresAt]
    by_cases hstart : minInstantNanos ≤ now.nanos + d.nanos
    · have hexpired : expiry now d ≤ later :=
        Int.le_trans (expiry_le_of_nonpos hstart hnonpos) hlater
      simp only [hexpired, hstart, true_or]
    · rw [expiry_of_lt (Int.not_le.mp hstart), Instant.latest_le_iff]
      simp only [hstart, false_or]

namespace Sample

def lasting (d : Span) : Record :=
  .issue .epoch ⟨.ofNat 0⟩ ⟨.ofNat 0⟩ ⟨.ofNat 0⟩ 0 ⟨"a"⟩ d

theorem issuedFor_lasting (d : Span) : (lasting d).IssuedFor .epoch d :=
  ⟨_, _, _, _, _, rfl⟩

def second : Span :=
  ⟨nanosPerSecond, by decide⟩

def secondBack : Span :=
  ⟨-nanosPerSecond, by decide⟩

def agesBack : Span :=
  ⟨-9000000000000 * nanosPerSecond, by decide⟩

end Sample

/-- A record that was to expire a second before its issue has expired, and it does so before one
that is issued for a second. -/
theorem lifetime_followed_secondBack :
    (Sample.lasting Sample.secondBack).expiresAt = .clamp (-nanosPerSecond) ∧
      (Sample.lasting Sample.secondBack).isExpired .epoch = true ∧
      (Sample.lasting Sample.secondBack).expiresAt ≤ (Sample.lasting Sample.second).expiresAt := by
  have hstart : minInstantNanos ≤ 0 + -nanosPerSecond := by decide
  have hnonpos : -nanosPerSecond ≤ 0 := by decide
  have hshorter : -nanosPerSecond ≤ nanosPerSecond := by decide
  rcases lifetime_followed (Sample.issuedFor_lasting Sample.secondBack) with
    ⟨hclamp, _, hmono, hexpired⟩
  exact ⟨hclamp.mpr hstart, (hexpired hnonpos .epoch (Int.le_refl _)).mpr (Or.inl hstart),
    hmono _ _ (Sample.issuedFor_lasting Sample.second) hshorter hstart⟩

/-- A lifetime that leads to a time before the calendar is not clamped to its start: the record
outlasts one that is issued for a second, and has not expired at its issue. -/
theorem lifetime_not_clamped :
    Sample.agesBack.nanos ≤ 0 ∧
      (Sample.lasting Sample.agesBack).expiresAt ≠
        .clamp (Instant.epoch.nanos + Sample.agesBack.nanos) ∧
      (Sample.lasting Sample.agesBack).expiresAt = .latest ∧
      (Sample.lasting Sample.second).expiresAt < (Sample.lasting Sample.agesBack).expiresAt ∧
      (Sample.lasting Sample.agesBack).isExpired .epoch = false := by
  decide +kernel

end Refresh

end SessionAuth
