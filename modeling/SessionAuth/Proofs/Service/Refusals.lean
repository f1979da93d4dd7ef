import SessionAuth.Proofs.Flow.Uninterrupted
import SessionAuth.Proofs.Service.Alone
import SessionAuth.Proofs.Service.Pairs
import SessionAuth.Proofs.Service.Replacement
import SessionAuth.ServiceError

/-!
# Refusals tell nothing

Whoever is refused learns that it was refused, and not for which reason: all refusals of a login,
of a refresh and of an access token become one and the same error.  So do those of a change of a
password, apart from what is wrong with the new one, and that is only told to somebody who has
shown the current one.  Two requests are compared that need not have anything in common, neither
the service, nor its state, nor the time.
-/

namespace SessionAuth

namespace Failure

/-- A refusal that becomes the one error for all credentials. -/
def Plain (e : Failure) : Prop :=
  e.toServiceError = .unauthorized generic

theorem publicMessage_toServiceError (e : Failure) :
    e.toServiceError.publicMessage = e.publicMessage := by
  cases e <;> rfl

end Failure

theorem Fault.publicMessage_toServiceError (x : Fault) :
    x.toServiceError.publicMessage = "Internal server error" := by
  cases x <;> rfl

theorem Session.Rejection.plain_failure (r : Session.Rejection) : r.failure.Plain := by
  cases r <;> rfl

theorem Access.TokenRejection.plain_failure (r : Access.TokenRejection) : r.failure.Plain := by
  cases r <;> rfl

namespace Service

variable {f : Session.Facade}

/-! # The turns of a refused request -/

section Turns

open SessionAuth.Flow

variable {turns : List Turn}

theorem plain_of_login {identifier password : String} {e : Failure}
    (h : (f.login identifier password).Yields turns (.error e)) : e.Plain := by
  rcases examines_of_yields h with ⟨y, hexamines⟩
  cases hexamines with
  | unknown _ hrest =>
      cases (yields_rejectLogin hrest).left
      rfl
  | mismatched _ _ hrest =>
      cases (yields_rejectLogin hrest).left
      rfl
  | barred _ _ hrest =>
      cases (yields_rejectLogin hrest).left
      rfl
  | admitted _ _ hrest =>
      rcases yields_openSession hrest with ⟨_, _, _, htokens, _⟩
      cases htokens

theorem plain_of_refresh {p : Refresh.Secret} {e : Failure}
    (h : (f.refresh p).Yields turns (.error e)) : e.Plain := by
  unfold Session.Facade.refresh at h
  rcases yields_bind.mp h with ⟨result, _, _, rfl, _, hrest⟩
  rcases result with rejection | o
  · rcases yields_bind.mp hrest with ⟨_, _, _, _, _, hdone⟩
    cases hdone.right
    exact rejection.plain_failure
  · rcases yields_bind.mp hrest with ⟨_, _, _, _, _, hdone⟩
    cases hdone.right

theorem plain_of_authenticate {token : String} {e : Failure}
    (h : (f.authenticate token).Yields turns (.error e)) : e.Plain := by
  unfold Session.Facade.authenticate at h
  rcases yields_now_bind.mp h with ⟨t, _, rfl, hverify⟩
  split at hverify
  · cases hverify.right
  · rcases yields_note_bind.mp hverify with ⟨_, _, hdone⟩
    cases hdone.right
    exact Access.TokenRejection.plain_failure .refused
  · rename_i rejection _ _
    cases hverify.right
    exact rejection.plain_failure

theorem plain_of_changePassword {subject : SubjectId} {current new : String} {e : Failure}
    (h : (f.changePassword subject current new).Yields turns (.error e)) :
    e.Plain ∨ ∃ v x rest, e = .policyViolation v ∧ x.isUsable = true ∧
      turns = knows subject (some x) :: verified current x.passwordHash :: rest := by
  cases weighs_of_yields h with
  | unknown _ hrest =>
      cases (yields_rejectChange hrest).left
      exact Or.inl rfl
  | mismatched _ _ hrest =>
      cases (yields_rejectChange hrest).left
      exact Or.inl rfl
  | barred _ _ hrest =>
      cases (yields_rejectChange hrest).left
      exact Or.inl rfl
  | unfit hturns husable hrest =>
      cases (yields_rejectChange hrest).left
      exact Or.inr ⟨_, _, _, rfl, husable, hturns⟩
  | fit _ _ _ _ hrest => cases (yields_replacePassword hrest).left

end Turns

/-! # Refused requests -/

namespace Request

def refusal? : (q : Request) → q.Reply → Option Failure
  | login _ _, .error e => some e
  | refresh _, .error e => some e
  | changePassword _ _ _, .error e => some e
  | authenticate _, .error e => some e
  | require _ _ _, .error e => some e
  | manageGrants _ _, .error e => some e
  | _, _ => none

/-- A refusal that says nothing but that the credentials of a request are not accepted. -/
inductive Hides : Request → Failure → Prop where
  | login {identifier password : String} {e : Failure} : Hides (login identifier password) e
  | refresh {p : Refresh.Secret} {e : Failure} : Hides (refresh p) e
  | authenticate {token : String} {e : Failure} : Hides (authenticate token) e
  | changePassword {subject : SubjectId} {current new : String} {e : Failure}
      (hother : ∀ v, e ≠ .policyViolation v) : Hides (changePassword subject current new) e

end Request

/-- A request that was refused, alone in whatever surroundings or by a service at work. -/
inductive Refused (q : Request) (e : Failure) : Prop where
  | alone {f : Session.Facade} {σ : Type} {answer : (e : Effect) → σ → e.Reply × σ} {s t : σ}
      {a : q.Reply} (hrun : (q.flow f).run answer s = (.ok a, t))
      (hrefusal : q.refusal? a = some e) : Refused q e
  | among {f : Session.Facade} {s : Service} {i : Nat} {a : q.Reply} (hs : Reachable f s)
      (hanswer : s.Answered i q a) (hrefusal : q.refusal? a = some e) : Refused q e

theorem Refused.yields {q : Request} {e : Failure} (h : Refused q e) :
    ∃ (f : Session.Facade) (turns : List Turn) (a : q.Reply),
      (q.flow f).Yields turns a ∧ q.refusal? a = some e := by
  cases h with
  | alone hrun hrefusal =>
      rcases Flow.yields_of_run hrun with ⟨turns, hyields, _⟩
      exact ⟨_, turns, _, hyields, hrefusal⟩
  | among hs hanswer hrefusal => exact ⟨_, _, _, hs.yields hanswer, hrefusal⟩

theorem Refused.plain {q : Request} {e : Failure} (h : Refused q e) (hhides : q.Hides e) :
    e.Plain := by
  rcases h.yields with ⟨f, turns, a, hyields, hrefusal⟩
  cases hhides with
  | login =>
      rcases a with d | tokens
      · cases hrefusal
        exact plain_of_login hyields
      · cases hrefusal
  | refresh =>
      rcases a with d | tokens
      · cases hrefusal
        exact plain_of_refresh hyields
      · cases hrefusal
  | authenticate =>
      rcases a with d | v
      · cases hrefusal
        exact plain_of_authenticate hyields
      · cases hrefusal
  | changePassword hother =>
      rcases a with d | done
      · cases hrefusal
        rcases plain_of_changePassword hyields with hplain | ⟨v, _, _, hviolation, _⟩
        · exact hplain
        · exact absurd hviolation (hother v)
      · cases hrefusal

theorem verified_of_run {w : World} {subject : SubjectId} {current new : String}
    {v : Password.Violation}
    (h : (w.run (f.changePassword subject current new)).1 = .ok (.error (.policyViolation v))) :
    ∃ x, w.store.subjects.findById subject = some x ∧ x.isUsable = true ∧
      Password.verify current x.passwordHash = .same := by
  have hrun : w.run (f.changePassword subject current new) =
      (.ok (.error (.policyViolation v)), (w.run (f.changePassword subject current new)).2) :=
    Prod.ext h rfl
  rcases Flow.yields_of_run hrun with ⟨turns, hyields, htells⟩
  rcases plain_of_changePassword hyields with hplain | ⟨_, x, rest, _, husable, rfl⟩
  · cases hplain
  · rcases htells with ⟨hfound, hverified, _⟩
    have hsubject : some x = w.store.subjects.findById subject := Except.ok.inj hfound
    have hsame : Password.Verification.same = Password.verify current x.passwordHash := hverified
    exact ⟨x, hsubject.symm, husable, hsame.symm⟩

theorem verified_of_answered {s : Service} (hs : Reachable f s) {i : Nat} {subject : SubjectId}
    {current new : String} {v : Password.Violation}
    (h : s.Answered i (.changePassword subject current new) (.error (.policyViolation v))) :
    ∃ x t u, Moment f s i (knows subject (some x)) t u ∧
      t.world.store.subjects.findById subject = some x ∧ x.isUsable = true ∧
      Password.verify current x.passwordHash = .same := by
  rcases plain_of_changePassword (hs.yields h) with hplain | ⟨_, x, rest, _, husable, hpast⟩
  · cases hplain
  · have hfirst : s.past i = [] ++ knows subject (some x) ::
        verified current x.passwordHash :: rest := hpast
    rcases hs.moment hfirst with ⟨t, u, hmoment, _⟩
    rcases hmoment.takes.perform with ⟨now, hperform⟩
    refine ⟨x, t, u, hmoment, (Store.perform_findById hperform).symm, husable, ?_⟩
    apply hs.verify_of_verified (i := i)
    rw [hpast]
    exact List.mem_cons_of_mem _ List.mem_cons_self

/-! # All refusals are alike -/

/-- Two refusals of credentials become the same error, whichever requests were refused, by whatever
services and for whatever reasons, so that they agree in kind, in status, and in all that anybody
may read.  A change of a password may be refused in other words for the sake of the new password,
but only to a caller that has shown the current one of a usable subject.  No error says more to
the caller than the refusal itself, and all faults say the same to the caller. -/
theorem refusals_alike :
    (∀ (p q : Request) (e d : Failure), p.Hides e → q.Hides d → Refused p e → Refused q d →
      e.toServiceError = d.toServiceError) ∧
    (∀ (f : Session.Facade) (w : World) (subject : SubjectId) (current new : String)
        (v : Password.Violation),
      (w.run (f.changePassword subject current new)).1 = .ok (.error (.policyViolation v)) →
      ∃ x, w.store.subjects.findById subject = some x ∧ x.isUsable = true ∧
        Password.verify current x.passwordHash = .same) ∧
    (∀ (f : Session.Facade) (s : Service) (i : Nat) (subject : SubjectId) (current new : String)
        (v : Password.Violation), Reachable f s →
      s.Answered i (.changePassword subject current new) (.error (.policyViolation v)) →
      ∃ x t u, Moment f s i (knows subject (some x)) t u ∧
        t.world.store.subjects.findById subject = some x ∧ x.isUsable = true ∧
        Password.verify current x.passwordHash = .same) ∧
    (∀ e : Failure, e.toServiceError.publicMessage = e.publicMessage) ∧
    ∀ x y : Fault, x.toServiceError.publicMessage = y.toServiceError.publicMessage := by
  refine ⟨?_, ?_, ?_, Failure.publicMessage_toServiceError, ?_⟩
  · intro p q e d hp hq he hd
    exact (he.plain hp).trans (hd.plain hq).symm
  · intro f w subject current new v h
    exact verified_of_run h
  · intro f s i subject current new v hs h
    exact verified_of_answered hs h
  · intro x y
    rw [x.publicMessage_toServiceError, y.publicMessage_toServiceError]

namespace Sample

def barredWorld : World :=
  { world with store := { world.store with
      subjects := ⟨[(subject.id, { subject with active := false })], by simp⟩ } }

theorem refused_login : Refused login .accountInactive := by
  have hnamed : barredWorld.store.subjects.findByIdentifier "ada@example.org" =
      some { subject with active := false } := by
    have hemail : ({ subject with active := false } : Subject).matchesEmail "ada@example.org" =
        true := beq_self_eq_true (foldIdentifier "ada@example.org")
    have hpresent : ({ subject with active := false } : Subject).isDeleted = false := rfl
    simp [barredWorld, Directory.findByIdentifier, Registry.values, Subject.findNamed?, hemail,
      hpresent]
  have hread : barredWorld.store.perform (barredWorld.instant 0)
      (.findByIdentifier "ada@example.org") =
        .ok (some { subject with active := false }, barredWorld.store) := by
    rw [← hnamed]
    rfl
  have hrun : (barredWorld.run (login.flow facade)).1 = .ok (.error .accountInactive) := by
    change (barredWorld.run (facade.login "ada@example.org" "old password")).1 = _
    unfold Session.Facade.login
    rw [World.run_call hread]
    dsimp only
    rw [World.run_verify, verify_passwordHash]
    rfl
  exact Refused.alone (Prod.ext hrun rfl) rfl

theorem refused_refresh : Refused (.refresh secret) .invalidCredential := by
  have hrun : (world.run ((Request.refresh secret).flow facade)).1 =
      .ok (.error .invalidCredential) := rfl
  exact Refused.alone (Prod.ext hrun rfl) rfl

end Sample

/-- Nobody can tell an account that was barred from a secret that nobody knows. -/
theorem refusals_alike_barred :
    Refused Sample.login .accountInactive ∧ Refused (.refresh Sample.secret) .invalidCredential ∧
      Failure.accountInactive.toServiceError = Failure.invalidCredential.toServiceError :=
  ⟨Sample.refused_login, Sample.refused_refresh, refusals_alike.left _ _ _ _ .login .refresh
    Sample.refused_login Sample.refused_refresh⟩

end Service

end SessionAuth
