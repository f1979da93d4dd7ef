import SessionAuth.Proofs.Access.Issuing

/-!
# The deadline of an issuer

The lifetimes of credentials are examined against the clock of the moment at which an issuer is
assembled.  Tokens are signed at a later time, and no later than one lifetime before the end of the
calendar.
-/

namespace SessionAuth

open Time

namespace Time

variable {t last : Instant} {d : Span}

/-! # Sums at the end of the calendar -/

theorem Instant.add?_eq_none (h : maxInstantNanos < t.nanos + d.nanos) : t.add? d = none := by
  rw [Option.eq_none_iff_forall_ne_some]
  intro u hu
  have hsum := Instant.add?_eq_some.mp hu
  have hend := u.inCalendar.right
  omega

theorem Instant.exists_last (hpositive : 0 < d.nanos) (h : (t.add? d).isSome) :
    ∃ last, t ≤ last ∧ last.add? d = some .latest := by
  rcases Option.isSome_iff_exists.mp h with ⟨u, hu⟩
  have hsum := Instant.add?_eq_some.mp hu
  have hend := u.inCalendar.right
  have hstart := t.inCalendar.left
  have hrange : minInstantNanos ≤ maxInstantNanos - d.nanos ∧
      maxInstantNanos - d.nanos ≤ maxInstantNanos := by omega
  refine ⟨⟨maxInstantNanos - d.nanos, hrange⟩, ?_, Instant.add?_eq_some.mpr ?_⟩
  · change t.nanos ≤ maxInstantNanos - d.nanos
    omega
  · change maxInstantNanos = maxInstantNanos - d.nanos + d.nanos
    omega

theorem Instant.add?_of_le (hlast : last.add? d = some .latest) (hpositive : 0 < d.nanos)
    (h : t ≤ last) : ∃ u, t.add? d = some u ∧ t < u := by
  have hsum : maxInstantNanos = last.nanos + d.nanos := Instant.add?_eq_some.mp hlast
  have hle : t.nanos ≤ last.nanos := h
  have hstart := t.inCalendar.left
  have hrange : minInstantNanos ≤ t.nanos + d.nanos ∧ t.nanos + d.nanos ≤ maxInstantNanos := by
    omega
  refine ⟨⟨t.nanos + d.nanos, hrange⟩, Instant.add?_eq_some.mpr rfl, ?_⟩
  change t.nanos < t.nanos + d.nanos
  omega

theorem Instant.add?_of_gt (hlast : last.add? d = some .latest) (h : last < t) :
    t.add? d = none := by
  have hsum : maxInstantNanos = last.nanos + d.nanos := Instant.add?_eq_some.mp hlast
  have hlt : last.nanos < t.nanos := h
  exact Instant.add?_eq_none (by omega)

end Time

namespace Access.Issuer

variable {i : Issuer} {start last now : Instant} {t : TokenSettings}

/-- What the last instant at which an issuer signs tokens says of it.  Up to this instant every
token is signed and expires one lifetime later.  After it no token is signed.  Refresh credentials
are issued at any time. -/
structure Deadline (i : Issuer) (last : Instant) : Prop where
  latest : last.add? i.accessLifetime = some .latest
  signs : ∀ now tokenId subject admin family, now ≤ last →
    ∃ c, i.issueAccess now tokenId subject admin family = .ok c ∧
      c.expiresAt.nanos = now.nanos + i.accessLifetime.nanos ∧ now < c.expiresAt
  overflows : ∀ now tokenId subject admin family, last < now →
    i.issueAccess now tokenId subject admin family = .error (.overflow .accessExpiry)
  renews : ∀ now id secret subject family generation,
    now ≤ (i.issueRefresh now id secret subject family generation).expiresAt

theorem issueAccess_of_overflow {key : SigningKey}
    (hkey : findKey? i.keys i.activeKeyId = some key) (h : now.add? i.accessLifetime = none)
    (tokenId : Id .accessToken) (subject : SubjectId) (admin : Bool) (family : Option FamilyId) :
    i.issueAccess now tokenId subject admin family = .error (.overflow .accessExpiry) := by
  unfold issueAccess
  simp only [hkey, h]

theorem le_expiry {d : Span} (h : 0 < d.nanos) : now ≤ Refresh.expiry now d := by
  unfold Refresh.expiry
  cases hsum : now.add? d with
  | none => exact now.inCalendar.right
  | some u =>
      have hnanos := Instant.add?_eq_some.mp hsum
      change now.nanos ≤ u.nanos
      omega

/-- An issuer that has been assembled has a deadline, and it was not over then. -/
theorem exists_deadline (h : assemble start t = .ok i) :
    ∃ last, start ≤ last ∧ i.Deadline last := by
  rcases (assembled_of_assemble h).active with ⟨key, hkey, _⟩
  rcases assemble_eq_ok h with ⟨_, haccess, hrefresh, _⟩
  rcases lifetime_eq_ok haccess with ⟨_, hpositive, hfits⟩
  rcases lifetime_eq_ok hrefresh with ⟨_, hrenewal, _⟩
  rcases Instant.exists_last hpositive hfits with ⟨last, hstart, hlast⟩
  refine ⟨last, hstart, ?_⟩
  constructor
  case latest => exact hlast
  case signs =>
      intro now tokenId subject admin family hnow
      rcases Instant.add?_of_le hlast hpositive hnow with ⟨expires, hexpires, hlt⟩
      exact ⟨_, issueAccess_eq_ok i hkey hexpires tokenId subject admin family,
        Instant.add?_eq_some.mp hexpires, hlt⟩
  case overflows =>
      intro now tokenId subject admin family hnow
      exact issueAccess_of_overflow hkey (Instant.add?_of_gt hlast hnow) tokenId subject admin
        family
  case renews =>
      intro now _ _ _ _ _
      exact le_expiry hrenewal

end Access.Issuer

end SessionAuth
