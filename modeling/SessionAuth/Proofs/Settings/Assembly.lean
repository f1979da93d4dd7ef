import SessionAuth.Core
import SessionAuth.Proofs.Settings.Validation

/-!
# Cores from valid settings

Settings are examined twice and by different rules: once when they are read, and again when a
core is assembled from them.  What has passed the first examination passes the second one, so that
a service with valid settings starts.
-/

namespace SessionAuth

open Time Access

/-! # Lifetimes -/

def Settings.longestLifetime : Span :=
  ⟨86400 * maxRefreshDays * nanosPerSecond, by decide⟩

theorem Time.Span.exists_ofSeconds? {n : Int} (hpositive : 0 < n)
    (hbound : n * nanosPerSecond ≤ Settings.longestLifetime.nanos) :
    ∃ d, Span.ofSeconds? n = some d ∧ d.nanos = n * nanosPerSecond := by
  have hlongest := Settings.longestLifetime.bounded.right
  have hrange : -maxSpanNanos ≤ n * nanosPerSecond ∧ n * nanosPerSecond ≤ maxSpanNanos := by
    constructor
    · unfold maxSpanNanos nanosPerSecond
      omega
    · exact Int.le_trans hbound hlongest
  exact ⟨⟨_, hrange⟩, Span.ofNanos?_eq_some.mpr rfl, rfl⟩

theorem Time.Instant.isSome_add?_of_le {t : Instant} {d e : Span} (h : (t.add? e).isSome)
    (hpositive : 0 < d.nanos) (hle : d.nanos ≤ e.nanos) : (t.add? d).isSome := by
  rcases Option.isSome_iff_exists.mp h with ⟨u, hu⟩
  have hsum := Instant.add?_eq_some.mp hu
  have hrange : minInstantNanos ≤ t.nanos + d.nanos ∧ t.nanos + d.nanos ≤ maxInstantNanos := by
    have ht := t.inCalendar
    have hu := u.inCalendar
    omega
  have hadd : t.add? d = some ⟨t.nanos + d.nanos, hrange⟩ := Instant.add?_eq_some.mpr rfl
  rw [hadd]
  rfl

namespace Access.Issuer

theorem lifetime_of_seconds {now : Instant} (setting : LifetimeSetting) {n : Int}
    (hnow : (now.add? Settings.longestLifetime).isSome) (hpositive : 0 < n)
    (hbound : n * nanosPerSecond ≤ Settings.longestLifetime.nanos) :
    ∃ d, lifetime now setting (Span.ofSeconds? n) = .ok d ∧ d.nanos = n * nanosPerSecond := by
  rcases Span.exists_ofSeconds? hpositive hbound with ⟨d, hd, hnanos⟩
  refine ⟨d, ?_, hnanos⟩
  have hlong : 0 < d.nanos := by
    rw [hnanos]
    unfold nanosPerSecond
    omega
  have hadd : (now.add? d).isSome :=
    Instant.isSome_add?_of_le hnow hlong (by rw [hnanos]; exact hbound)
  unfold lifetime
  rw [hd]
  exact if_pos ⟨hlong, hadd⟩

/-! # Rings -/

theorem checkRing_of_nodup {t : TokenSettings} (hdistinct : (t.keys.map SigningKey.id).Nodup)
    {k : SigningKey} (hmem : k ∈ t.keys) (hid : k.id = t.activeKeyId) (hsigns : k.retired = false) :
    checkRing t = .ok () := by
  have hduplicate : duplicate? [] t.keys = none := by
    rw [duplicate?_eq_none]
    refine ⟨hdistinct, ?_⟩
    intro _ _ hseen
    cases hseen
  have hactive : findKey? t.keys t.activeKeyId = some k :=
    (findKey?_eq_some hdistinct).mpr ⟨hmem, hid⟩
  unfold checkRing
  rw [hduplicate, hactive]
  simp [hsigns]

end Access.Issuer

/-! # Cores -/

/-- A core that does what settings say. -/
structure Core.Realizes (c : Core) (s : Settings) : Prop where
  settings : c.settings = s
  cost : c.sessions.cost = s.password.cost
  policy : c.sessions.policy = s.password.policy
  name : c.sessions.issuer.name = s.tokens.issuer
  keys : c.sessions.issuer.keys = s.tokens.keys
  activeKeyId : c.sessions.issuer.activeKeyId = s.tokens.activeKeyId
  access : c.sessions.issuer.accessLifetime.nanos = 60 * s.tokens.accessMinutes * nanosPerSecond
  refresh : c.sessions.issuer.refreshLifetime.nanos =
    86400 * s.tokens.refreshDays * nanosPerSecond

namespace Settings

theorem Valid.assemble {s : Settings} (hs : s.Valid) {now : Instant}
    (hnow : (now.add? longestLifetime).isSome) :
    ∃ c, Core.assemble now s = .ok c ∧ c.Realizes s := by
  rcases hs.active with ⟨k, hmem, hid, hsigns⟩
  have hring := Issuer.checkRing_of_nodup hs.distinct hmem hid hsigns
  have hcost : Core.checkCost s.password = .ok s.password.cost := by
    unfold Core.checkCost
    rw [hs.cost]
  have hminutes := hs.accessMinutes
  have hdays := hs.refreshDays
  unfold maxAccessMinutes at hminutes
  unfold maxRefreshDays at hdays
  have hlongest : longestLifetime.nanos = 86400 * 365 * nanosPerSecond := rfl
  have hpositive : 0 < nanosPerSecond := by decide
  rcases Issuer.lifetime_of_seconds (n := 60 * s.tokens.accessMinutes) .accessMinutes hnow
    (by omega) (by rw [hlongest]; unfold nanosPerSecond; omega) with ⟨access, haccess, haccessNanos⟩
  rcases Issuer.lifetime_of_seconds (n := 86400 * s.tokens.refreshDays) .refreshDays hnow
    (by omega) (by rw [hlongest]; unfold nanosPerSecond; omega) with
    ⟨refresh, hrefresh, hrefreshNanos⟩
  refine ⟨⟨⟨s.password.cost, ⟨s.tokens.keys, s.tokens.activeKeyId, s.tokens.issuer, access,
    refresh⟩, s.password.policy⟩, s⟩, ?_, rfl, rfl, rfl, rfl, rfl, rfl, haccessNanos,
    hrefreshNanos⟩
  have hissuer : Issuer.assemble now s.tokens = .ok ⟨s.tokens.keys, s.tokens.activeKeyId,
      s.tokens.issuer, access, refresh⟩ := by
    unfold Issuer.assemble Span.ofMinutes? Span.ofDays?
    rw [hring, haccess, hrefresh]
    rfl
  unfold Core.assemble
  rw [hcost, hissuer]
  rfl

/-- A core can be assembled from valid settings at every instant from which the longest lifetime
does not lead out of the calendar.  Its active key is the one key of that name in its ring and
signs, and its lifetimes are those of the settings: no more than an hour and no more than a
year. -/
theorem assemble_of_validate {s : Settings} (hvalid : s.validate = .ok ()) {now : Instant}
    (hnow : (now.add? longestLifetime).isSome) :
    ∃ c, Core.assemble now s = .ok c ∧ c.Realizes s ∧
      (∃ k ∈ c.sessions.issuer.keys, k.id = c.sessions.issuer.activeKeyId ∧ k.retired = false ∧
        ∀ k' ∈ c.sessions.issuer.keys, k'.id = c.sessions.issuer.activeKeyId → k' = k) ∧
      (0 < c.sessions.issuer.accessLifetime.nanos ∧
        c.sessions.issuer.accessLifetime.nanos ≤ 60 * 60 * nanosPerSecond) ∧
      0 < c.sessions.issuer.refreshLifetime.nanos ∧
        c.sessions.issuer.refreshLifetime.nanos ≤ 365 * 86400 * nanosPerSecond := by
  have hs := validate_eq_ok.mp hvalid
  rcases hs.assemble hnow with ⟨c, hc, hrealizes⟩
  refine ⟨c, hc, hrealizes, ?_, ?_, ?_⟩
  · rw [hrealizes.keys, hrealizes.activeKeyId]
    rcases hs.active with ⟨k, hmem, hid, hsigns⟩
    refine ⟨k, hmem, hid, hsigns, ?_⟩
    intro k' hmem' hid'
    exact Issuer.unique_of_mem hs.distinct hmem k' hmem' (hid'.trans hid.symm)
  · rw [hrealizes.access]
    have hminutes := hs.accessMinutes
    unfold maxAccessMinutes at hminutes
    unfold nanosPerSecond
    omega
  · rw [hrealizes.refresh]
    have hdays := hs.refreshDays
    unfold maxRefreshDays at hdays
    unfold nanosPerSecond
    omega

namespace Sample

def settings : Settings where
  environment := .prod
  serviceName := standardServiceName
  logLevel := standardLogLevel
  otlpEndpoint := none
  tokens := ⟨"service", "new", [⟨"old", "a secret of at least thirty-two octets", true⟩,
    ⟨"new", "another secret of at least thirty-two octets", false⟩], 60, 365⟩
  password := .standard
  database := none
  audit := .standard

end Sample

theorem assemble_of_validate_longest :
    Sample.settings.validate = .ok () ∧ (Instant.epoch.add? longestLifetime).isSome ∧
      ∃ c, Core.assemble .epoch Sample.settings = .ok c ∧
        c.sessions.issuer.refreshLifetime.nanos = 365 * 86400 * nanosPerSecond := by
  have hvalid : Sample.settings.validate = .ok () := by decide +kernel
  have hnow : (Instant.epoch.add? longestLifetime).isSome := by decide
  rcases assemble_of_validate hvalid hnow with ⟨c, hc, hrealizes, _⟩
  exact ⟨hvalid, hnow, c, hc, hrealizes.refresh⟩

end Settings
end SessionAuth
