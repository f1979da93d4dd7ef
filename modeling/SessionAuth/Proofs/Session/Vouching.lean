import SessionAuth.Proofs.Access.Rollover
import SessionAuth.Proofs.Flow.Uninterrupted
import SessionAuth.Session.Facade

/-!
# What an access token vouches for

An access token that was issued is accepted at any time up to its expiry, and says of its bearer
what it was issued for.
-/

namespace SessionAuth
namespace Session

open Time Access

/-- Up to the expiry of a credential, its token is verified as that of a subject, with a family
and a flag, and as signed with the active key. -/
def Vouches (f : Facade) (access : Credential) (subject : SubjectId) (family : FamilyId)
    (admin : Bool) : Prop :=
  access.keyId = f.issuer.activeKeyId ∧
    ∃ v : Verified, v.subject = subject ∧ v.family = some family ∧ v.admin = admin ∧
      v.keyId = f.issuer.activeKeyId ∧
      ∀ w : World, w.instant 0 ≤ access.expiresAt →
        w.Gives (f.authenticate access.token) (.ok v) w.store

theorem gives_authenticate {f : Facade} {w : World} {token : String} {v : Verified}
    (h : f.issuer.verify (w.instant 0).seconds token = .ok v) :
    w.Gives (f.authenticate token) (.ok v) w.store := by
  have hrun : w.run (f.authenticate token) = w.tick.run (pure (.ok v)) := by
    unfold Facade.authenticate
    rw [World.run_now, h]
  unfold World.Gives
  rw [hrun]
  exact ⟨rfl, rfl⟩

theorem verify_of_answer {i : Issuer} {second : Int} {token : String} {v : Verified}
    (h : i.answer second token = .ok v) : i.verify second token = .ok v := by
  unfold Issuer.answer at h
  cases hverify : i.verify second token with
  | error rejection =>
      rw [hverify] at h
      cases h
  | ok v' =>
      rw [hverify] at h
      cases h
      rfl

theorem seconds_le {t u : Instant} (h : t ≤ u) : t.seconds ≤ u.seconds := by
  rw [Issuer.seconds_eq, Issuer.seconds_eq]
  exact Int.ediv_le_ediv (by decide) h

/-- Whatever an issuer that has been assembled issues from the start of 1970 on vouches for what
it was issued for. -/
theorem vouches_of_issueAccess {f : Facade} {start : Instant} {settings : TokenSettings}
    (ha : Issuer.assemble start settings = .ok f.issuer) {now : Instant} (hnow : .epoch ≤ now)
    {id : Id .accessToken} {subject : SubjectId} {admin : Bool} {family : FamilyId}
    {access : Credential}
    (h : f.issuer.issueAccess now id subject admin (some family) = .ok access) :
    Vouches f access subject family admin := by
  have hassembled := Issuer.assembled_of_assemble ha
  rcases hassembled.active with ⟨key, hkey, _⟩
  rcases (Issuer.findKey?_eq_some hassembled.distinct).mp hkey with ⟨hmem, hid⟩
  cases hexpires : now.add? f.issuer.accessLifetime with
  | none =>
      unfold Issuer.issueAccess at h
      simp only [hkey, hexpires] at h
      cases h
  | some expires =>
      rw [f.issuer.issueAccess_eq_ok hkey hexpires] at h
      cases h
      rcases Issuer.exists_ofSeconds? expires with ⟨u, hu, _⟩
      rcases Issuer.seconds_add? hassembled hexpires with ⟨hseconds, hpositive⟩
      have hnonneg : 0 ≤ expires.seconds := by
        have hfirst := Issuer.seconds_nonneg hnow
        omega
      have hread := Issuer.readClaims?_claims (a := f.issuer) key.id now hu id subject admin
        (some family)
      have hself : Issuer.findKey? f.issuer.keys key.id = some key := by
        rw [hid]
        exact hkey
      have hanswers := Issuer.answersUntil_of_name_eq hself rfl
        (f.issuer.bounded_claims now expires id subject admin (some family)) hnonneg rfl hread
      refine ⟨rfl, ⟨subject, admin, some family, key.id, id.text, u⟩, rfl, rfl, rfl, hid, ?_⟩
      intro w hw
      exact gives_authenticate (verify_of_answer (hanswers.upTo _ (seconds_le hw)))

end Session
end SessionAuth
