import SessionAuth.Proofs.Access.Deadline
import SessionAuth.Proofs.Service.Endings
import SessionAuth.Proofs.Service.Lineage
import SessionAuth.Proofs.Session.Decision

/-!
# Logins and refreshes after the deadline

A login and a refresh sign an access token before they change anything.  Past the deadline of the
issuer they halt there.
-/

namespace SessionAuth

open Time Refresh

namespace Session

variable {w : World} {e : Halt}

/-! # Tokens that are not signed -/

theorem run_openSession_of_error {f : Facade} {x : Subject}
    (h : f.issuer.issueAccess (w.instant 0) ⟨w.uuid 1⟩ x.id x.admin (some ⟨w.uuid 0⟩) =
      .error e) :
    w.run (f.openSession x) = (.error e, w.drawId.2.tick.drawId.2) :=
  run_issueAccess_of_error _ w.drawId.2 h _

theorem run_login_of_error {f : Facade} {identifier password : String} {x : Subject}
    (hfound : w.store.subjects.findByIdentifier identifier = some x)
    (hsame : Password.verify password x.passwordHash = .same) (husable : x.isUsable = true)
    (h : f.issuer.issueAccess (w.instant 1) ⟨w.uuid 1⟩ x.id x.admin (some ⟨w.uuid 0⟩) =
      .error e) :
    (w.run (f.login identifier password)).1 = .error e ∧
      (w.run (f.login identifier password)).2.store = w.store := by
  have hperform : w.store.perform (w.instant 0) (.findByIdentifier identifier) =
      .ok (some x, w.store) := by
    rw [← hfound]
    rfl
  have hrun : w.run (f.login identifier password) =
      ((w.called w.store).verify password x.passwordHash).2.run (f.openSession x) := by
    unfold Facade.login
    rw [World.run_call hperform]
    dsimp only
    rw [World.run_verify, hsame, husable]
    rfl
  rw [hrun, run_openSession_of_error h]
  exact ⟨rfl, rfl⟩

theorem run_refresh_of_error {f : Facade} {p : Secret} {r : Record} {x : Subject}
    (hfound : w.store.tokens.findByHash p.hash = some r) (hown : r.belongsTo p = true)
    (hactive : r.state = .active) (hfresh : ¬ r.expiresAt ≤ w.instant 1)
    (hx : w.store.subjects.findById r.subject = some x) (husable : x.isUsable = true)
    (h : f.issuer.issueAccess (w.instant 3) ⟨w.uuid 0⟩ x.id x.admin (some r.family) = .error e) :
    (w.run (f.refresh p)).1 = .error e ∧ (w.run (f.refresh p)).2.store = w.store := by
  have hrotate : w.run (rotate f.issuer p) =
      (.error e, (w.tick.tick.called w.store).tick.drawId.2) := by
    rw [run_rotate_of_usable f.issuer w hfound hown hactive hfresh hx husable]
    exact run_exchange_of_unsigned f.issuer (w.tick.tick.called w.store) h
  unfold Facade.refresh
  rw [World.run_bind_of_error hrotate]
  exact ⟨rfl, rfl⟩

end Session

namespace Service

variable {f : Session.Facade}

theorem Fails.clock {q : Request} {past : List Turn}
    (h : Fails f q past (.overflow .accessExpiry)) :
    ∃ now tokenId subject admin family, ⟨.clock, now⟩ ∈ past ∧
      f.issuer.issueAccess now tokenId subject admin family = .error (.overflow .accessExpiry) := by
  cases h with
  | login _ _ _ hclock hissue => exact ⟨_, _, _, _, _, hclock, hissue⟩
  | refresh _ _ _ hclock hissue => exact ⟨_, _, _, _, _, hclock, hissue⟩

theorem after_deadline {s : Service} (hs : Reachable f s) {last : Instant}
    (hlast : f.issuer.Deadline last) {i n : Nat} {q : Request}
    (hq : Flow.Bounded (Fails f q) n [] (q.flow f))
    (hi : s.tasks[i]? = some ⟨q, .halt (.overflow .accessExpiry)⟩) :
    ∃ now, ⟨.clock, now⟩ ∈ s.past i ∧ last < now := by
  have hfails := (Flow.bounded_halt _).mp (hs.bounded_rest hq hi)
  rcases hfails.clock with ⟨now, tokenId, subject, admin, family, hclock, hissue⟩
  refine ⟨now, hclock, ?_⟩
  change last.nanos < now.nanos
  by_contra hle
  rcases hlast.signs now tokenId subject admin family (by change now.nanos ≤ last.nanos; omega) with
    ⟨c, hc, _⟩
  rw [hissue] at hc
  cases hc

/-- An issuer has a deadline that was not over when it was assembled.  Up to the deadline it signs
every token, and the token expires one lifetime later, and so no login or refresh halts for the sake
of its expiry.  After the deadline it signs none: a login with the right password and a refresh of
an active record halt and leave the store as it was.  Refresh credentials are issued at any time,
and they never expire before they are issued. -/
theorem signing_deadline {start : Instant} {t : TokenSettings}
    (ha : Access.Issuer.assemble start t = .ok f.issuer) :
    ∃ last, start ≤ last ∧ f.issuer.Deadline last ∧
      (∀ s i identifier password, Reachable f s →
        s.tasks[i]? = some ⟨.login identifier password, .halt (.overflow .accessExpiry)⟩ →
        ∃ now, ⟨.clock, now⟩ ∈ s.past i ∧ last < now) ∧
      (∀ s i p, Reachable f s →
        s.tasks[i]? = some ⟨.refresh p, .halt (.overflow .accessExpiry)⟩ →
        ∃ now, ⟨.clock, now⟩ ∈ s.past i ∧ last < now) ∧
      (∀ (w : World) identifier password x,
        w.store.subjects.findByIdentifier identifier = some x →
        Password.verify password x.passwordHash = .same → x.isUsable = true →
        last < w.instant 1 →
        (w.run (f.login identifier password)).1 = .error (.overflow .accessExpiry) ∧
          (w.run (f.login identifier password)).2.store = w.store) ∧
      ∀ (w : World) p r x, w.store.tokens.findByHash p.hash = some r → r.belongsTo p = true →
        r.state = .active → ¬ r.expiresAt ≤ w.instant 1 →
        w.store.subjects.findById r.subject = some x → x.isUsable = true →
        last < w.instant 3 →
        (w.run (f.refresh p)).1 = .error (.overflow .accessExpiry) ∧
          (w.run (f.refresh p)).2.store = w.store := by
  rcases Access.Issuer.exists_deadline ha with ⟨last, hstart, hlast⟩
  refine ⟨last, hstart, hlast, ?_, ?_, ?_, ?_⟩
  · intro s i identifier password hs hi
    exact after_deadline hs hlast (bounded_login f identifier password) hi
  · intro s i p hs hi
    exact after_deadline hs hlast (bounded_refresh f p) hi
  · intro w identifier password x hfound hsame husable hafter
    exact Session.run_login_of_error hfound hsame husable (hlast.overflows _ _ _ _ _ hafter)
  · intro w p r x hfound hown hactive hfresh hx husable hafter
    exact Session.run_refresh_of_error hfound hown hactive hfresh hx husable
      (hlast.overflows _ _ _ _ _ hafter)

namespace Sample

/-- Access tokens for all minutes of the calendar after the first one of 1970. -/
def endless : TokenSettings :=
  { settings with accessMinutes := 136837781279 }

def endlessFacade : Session.Facade :=
  { facade with issuer := { issuer with
      accessLifetime := ⟨60 * 136837781279 * nanosPerSecond, by decide⟩ } }

theorem assemble_endless :
    Access.Issuer.assemble .epoch endless = .ok endlessFacade.issuer := rfl

def minute : Instant :=
  ⟨60 * nanosPerSecond, by decide⟩

def minuteWorld : World :=
  { world with supply := { supply with clock := fun _ => minute } }

end Sample

/-- The login comes after the deadline. -/
theorem signing_deadline_endless :
    Access.Issuer.assemble .epoch Sample.endless = .ok Sample.endlessFacade.issuer ∧
      ∃ last, .epoch ≤ last ∧ Sample.endlessFacade.issuer.Deadline last ∧ last < Sample.minute ∧
        (Sample.minuteWorld.run
            (Sample.endlessFacade.login "ada@example.org" "old password")).1 =
          .error (.overflow .accessExpiry) ∧
        (Sample.minuteWorld.run
            (Sample.endlessFacade.login "ada@example.org" "old password")).2.store =
          Sample.minuteWorld.store := by
  rcases signing_deadline Sample.assemble_endless with ⟨last, hstart, hlast, _, _, hlogin, _⟩
  have hafter : last < Sample.minute := by
    have hsum := Instant.add?_eq_some.mp hlast.latest
    change maxInstantNanos = last.nanos + 60 * 136837781279 * nanosPerSecond at hsum
    change last.nanos < 60 * nanosPerSecond
    unfold maxInstantNanos nanosPerSecond at hsum
    unfold nanosPerSecond
    omega
  exact ⟨Sample.assemble_endless, last, hstart, hlast, hafter,
    hlogin Sample.minuteWorld "ada@example.org" "old password" Sample.subject
      Sample.findByIdentifier_world Sample.verify_passwordHash rfl hafter⟩

/-- An issuer does not sign for ever: a minute after these settings have been accepted a login with
the right password halts. -/
theorem not_always_signed :
    Access.Issuer.assemble .epoch Sample.endless = .ok Sample.endlessFacade.issuer ∧
      .epoch ≤ Sample.minute ∧
      Sample.minute.add? Sample.endlessFacade.issuer.accessLifetime = none ∧
      (Sample.minuteWorld.run (Sample.endlessFacade.login "ada@example.org" "old password")).1 =
        .error (.overflow .accessExpiry) := by
  have hlogin := Session.run_login_of_error (f := Sample.endlessFacade) (w := Sample.minuteWorld)
    (e := .overflow .accessExpiry) Sample.findByIdentifier_world Sample.verify_passwordHash rfl rfl
  exact ⟨Sample.assemble_endless, by decide, rfl, hlogin.left⟩

end Service

end SessionAuth
