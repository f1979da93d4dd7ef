import SessionAuth.Permission.Engine
import SessionAuth.Proofs.Flow.Mirror
import SessionAuth.Session.Facade

/-!
# Requests that treat secrets alike

A request looks at a secret through its hash alone, and a new secret goes into its record and into
the answer and nowhere else.  So the flows of two requests mirror each other whenever their secrets
stand for each other.
-/

namespace SessionAuth

open Time Refresh SessionAuth.Flow

/-! # Requests without secrets -/

namespace Session

theorem secretFree_issueAccess (i : Access.Issuer) (subject : SubjectId) (admin : Bool)
    (family : Option FamilyId) : SecretFree (issueAccess i subject admin family) := by
  unfold issueAccess
  apply secretFree_now.bind
  intro now
  apply (secretFree_newId .accessToken).bind
  intro id
  exact secretFree_ofExcept _

theorem secretFree_revokeForReuse (r : Record) : SecretFree (revokeForReuse r) := by
  unfold revokeForReuse
  apply (secretFree_call rfl).bind
  intro records
  exact (secretFree_note _).bind (fun _ => trivial)

theorem secretFree_revokeForSubject (r : Record) : SecretFree (revokeForSubject r) := by
  unfold revokeForSubject
  apply (secretFree_call rfl).bind
  intro records
  exact (secretFree_note _).bind (fun _ => trivial)

theorem secretFree_revokeSubject (subject : SubjectId) (reason : Reason) :
    SecretFree (revokeSubject subject reason) := by
  unfold revokeSubject
  apply (secretFree_call rfl).bind
  intro families
  exact (secretFree_note _).bind (fun _ => trivial)

namespace Facade

theorem secretFree_reportRejection (j : Rejection) : SecretFree (reportRejection j) := by
  cases j <;> exact secretFree_report _ _ _ _

theorem secretFree_rejectChange (subject : SubjectId) (failure : Failure) :
    SecretFree (rejectChange subject failure) := by
  unfold rejectChange
  apply (secretFree_note _).bind
  intro _
  exact (secretFree_report _ _ _ _).bind (fun _ => trivial)

variable (f : Facade)

theorem secretFree_replacePassword (subject : SubjectId) (new : String) :
    SecretFree (f.replacePassword subject new) := by
  unfold replacePassword
  apply (secretFree_perform rfl).bind
  intro salt
  apply (secretFree_revokeSubject subject .passwordChange).bind
  intro before
  apply (secretFree_call rfl).bind
  intro _
  apply (secretFree_revokeSubject subject .passwordChange).bind
  intro after
  apply (secretFree_note _).bind
  intro _
  exact (secretFree_report _ _ _ _).bind (fun _ => trivial)

theorem secretFree_changePassword (subject : SubjectId) (current new : String) :
    SecretFree (f.changePassword subject current new) := by
  unfold changePassword
  apply (secretFree_call rfl).bind
  intro y
  cases y with
  | none => exact secretFree_rejectChange _ _
  | some s =>
      apply (secretFree_perform rfl).bind
      intro v
      repeat' split
      all_goals first | exact secretFree_rejectChange _ _ | exact f.secretFree_replacePassword _ _

theorem secretFree_revokeAll (subject : SubjectId) : SecretFree (revokeAll subject) := by
  unfold revokeAll
  apply (secretFree_revokeSubject subject .subjectRevoked).bind
  intro families
  exact (secretFree_report _ _ _ _).bind (fun _ => trivial)

theorem secretFree_authenticate (token : String) : SecretFree (f.authenticate token) := by
  unfold authenticate
  apply secretFree_now.bind
  intro now
  split
  · trivial
  · exact (secretFree_note _).bind (fun _ => trivial)
  · trivial

end Facade

end Session

namespace Permission

theorem secretFree_liveResource (id : ResourceId) : SecretFree (liveResource id) := by
  unfold liveResource
  exact (secretFree_call rfl).bind (fun _ => trivial)

theorem secretFree_levelOn (r : Resource) (subject : SubjectId) :
    SecretFree (levelOn r subject) := by
  unfold levelOn
  apply (secretFree_call rfl).bind
  intro y
  cases y with
  | some g => trivial
  | none =>
      dsimp only
      split
      · apply (secretFree_call rfl).bind
        intro h
        split <;> trivial
      · trivial

theorem secretFree_effectiveLevel (subject : SubjectId) (resource : ResourceId) :
    SecretFree (effectiveLevel subject resource) := by
  unfold effectiveLevel
  apply (secretFree_liveResource resource).bind
  intro y
  cases y with
  | none => trivial
  | some r => exact secretFree_levelOn r subject

theorem secretFree_decideHeld (subject : SubjectId) (required : Level) (held : Option Level) :
    SecretFree (decideHeld subject required held) := by
  unfold decideHeld
  split
  · trivial
  · unfold isAdministrator
    apply SecretFree.bind
    · exact (secretFree_call (c := .findById subject) rfl).bind (fun _ => trivial)
    · intro admin
      split <;> trivial

theorem secretFree_reportDecision (subject : SubjectId) (resource : ResourceId) (required : Level)
    (decision : Decision) (reason : Option String) :
    SecretFree (reportDecision subject resource required decision reason) := by
  unfold reportDecision
  dsimp only
  split
  · exact (secretFree_note _).bind (fun _ => secretFree_report _ _ _ _)
  · exact secretFree_report _ _ _ _

theorem secretFree_decide (subject : SubjectId) (resource : ResourceId) (required : Level) :
    SecretFree (decide subject resource required) := by
  unfold decide
  apply (secretFree_liveResource resource).bind
  intro y
  cases y with
  | none => exact (secretFree_reportDecision _ _ _ _ _).bind (fun _ => trivial)
  | some r =>
      apply (secretFree_levelOn r subject).bind
      intro held
      apply (secretFree_decideHeld subject required held).bind
      intro decision
      exact (secretFree_reportDecision _ _ _ _ _).bind (fun _ => trivial)

theorem secretFree_require (subject : SubjectId) (resource : ResourceId) (required : Level) :
    SecretFree (require subject resource required) := by
  unfold require
  exact (secretFree_decide subject resource required).bind (fun _ => trivial)

end Permission

namespace Refresh.Mirror

open Session

/-! # Requests with secrets -/

/-- Outcomes of an exchange that differ in the new secret alone. -/
inductive Exchanges (m : Mirror) : Rotated → Rotated → Prop where
  | intro (o : Rotated) {secret : Secret} (h : m.Secrets o.secret secret) :
      Exchanges m o { o with secret := secret }

inductive Credentials (m : Mirror) : Tokens → Tokens → Prop where
  | intro (t : Tokens) {secret : Secret} (h : m.Secrets t.refresh secret) :
      Credentials m t { t with refresh := secret }

variable {m : Mirror}

theorem flows_issueRefresh (i : Access.Issuer) (subject : SubjectId) (family : FamilyId)
    (generation : Int) :
    m.Flows (fun x y => m.Secrets x.1 y.1 ∧ m.Records x.2 y.2)
      (issueRefresh i subject family generation) (issueRefresh i subject family generation) := by
  unfold issueRefresh
  apply flows_freshSecret.bind
  intro s s' hs
  apply flows_after secretFree_now
  intro now
  apply flows_after (secretFree_newId .record)
  intro id
  exact Flows.done ⟨hs, Records.intro (i.issueRefresh now id s subject family generation)
    (Hashes.intro hs)⟩

theorem flows_openSession (f : Facade) (x : Subject) :
    m.Flows (ExceptRel m.Credentials) (f.openSession x) (f.openSession x) := by
  unfold Facade.openSession
  apply flows_after (secretFree_newId .family)
  intro family
  apply flows_after (secretFree_issueAccess _ _ _ _)
  intro access
  apply (flows_issueRefresh f.issuer x.id family 0).bind
  rintro ⟨s, r⟩ ⟨s', r'⟩ ⟨hs, hr⟩
  dsimp only at hs hr ⊢
  have hinsert := flows_call (Calls.insert hr)
  apply hinsert.bind
  intro _ _ _
  apply flows_after secretFree_now
  intro now
  apply flows_after (secretFree_call rfl)
  intro _
  apply flows_after (secretFree_note _)
  intro _
  apply flows_after (secretFree_report _ _ _ _)
  intro _
  cases hr with
  | intro hhash =>
      exact Flows.done (ExceptRel.ok (Credentials.intro
        ⟨x.id, family, access, f.issuer.accessSeconds, s, r.expiresAt⟩ hs))

theorem flows_rejectLogin (subject : Option SubjectId) (failure : Failure) (reason : String) :
    m.Flows (ExceptRel m.Credentials) (Facade.rejectLogin subject failure reason)
      (Facade.rejectLogin subject failure reason) := by
  unfold Facade.rejectLogin
  apply flows_after (secretFree_note _)
  intro _
  apply flows_after (secretFree_report _ _ _ _)
  intro _
  exact Flows.done (ExceptRel.error failure)

theorem flows_login (f : Facade) (identifier password : String) :
    m.Flows (ExceptRel m.Credentials) (f.login identifier password)
      (f.login identifier password) := by
  unfold Facade.login
  apply flows_after (secretFree_call rfl)
  intro y
  cases y with
  | none => exact flows_rejectLogin _ _ _
  | some x =>
      apply flows_after (secretFree_perform rfl)
      intro v
      split
      · exact flows_rejectLogin _ _ _
      · split
        · exact flows_rejectLogin _ _ _
        · exact flows_openSession f x

/-! ## Presented secrets -/

theorem flows_findPresented {s s' : Secret} (hs : m.Secrets s s') :
    m.Flows (Option.Rel m.Records) (findPresented s) (findPresented s') := by
  unfold findPresented
  apply (flows_call (Calls.findByHash (Hashes.intro hs))).bind
  intro y y' hy
  cases hy with
  | none => exact Flows.done Option.Rel.none
  | some hr =>
      rw [Option.filter_some, Option.filter_some, ← hr.belongsTo hs]
      split
      · exact Flows.done (Option.Rel.some hr)
      · exact Flows.done Option.Rel.none

section Rotating

variable {r : Record} {hash : String} (i : Access.Issuer)

theorem flows_refusing {x : Flow Rejection} (hx : SecretFree x) :
    m.Flows (ExceptRel m.Exchanges) (x >>= fun j => pure (.error j))
      (x >>= fun j => pure (.error j)) := by
  apply flows_after hx
  intro j
  exact Flows.done (ExceptRel.error j)

theorem flows_exchange (x : Subject) :
    m.Flows (ExceptRel m.Exchanges) (exchange i x r)
      (exchange i x { r with tokenHash := hash }) := by
  unfold exchange
  apply flows_after (secretFree_issueAccess _ _ _ _)
  intro access
  apply flows_after (secretFree_ofExcept _)
  intro generation
  apply (flows_issueRefresh i x.id r.family generation).bind
  rintro ⟨s, next⟩ ⟨s', next'⟩ ⟨hs, hnext⟩
  dsimp only at hs hnext ⊢
  have htransition := flows_call (Calls.transition r.id .active .consumed hnext)
  apply htransition.bind
  rintro o _ rfl
  cases o with
  | applied =>
      apply flows_after (secretFree_note _)
      intro _
      cases hnext with
      | intro hhash =>
          exact Flows.done (ExceptRel.ok (Exchanges.intro
            ⟨x.id, r.family, generation, r.id, access, s, next.expiresAt⟩ hs))
  | stateMismatch current =>
      cases current with
      | consumed => exact flows_refusing (secretFree_revokeForReuse r)
      | active => exact Flows.done (ExceptRel.error _)
      | revoked => exact Flows.done (ExceptRel.error _)
  | familyRevoked => exact Flows.done (ExceptRel.error _)
  | notFound => exact Flows.done (ExceptRel.error _)

theorem flows_advance :
    m.Flows (ExceptRel m.Exchanges) (advance i r) (advance i { r with tokenHash := hash }) := by
  unfold advance
  apply flows_after (secretFree_call rfl)
  intro y
  cases y with
  | none => exact flows_refusing (secretFree_revokeForSubject r)
  | some x =>
      dsimp only
      split
      · exact flows_exchange i x
      · exact flows_refusing (secretFree_revokeForSubject r)

theorem flows_rotate {s s' : Secret} (hs : m.Secrets s s') :
    m.Flows (ExceptRel m.Exchanges) (rotate i s) (rotate i s') := by
  unfold rotate
  apply (flows_findPresented hs).bind
  intro y y' hy
  cases hy with
  | none => exact Flows.done (ExceptRel.error _)
  | @some r _ hr =>
      cases hr with
      | @intro hash hhash =>
          dsimp only
          split
          · apply flows_after (secretFree_note _)
            intro _
            exact Flows.done (ExceptRel.error _)
          · apply flows_after secretFree_now
            intro now
            -- Both sides come to the same decision, which rests on anything but the hash.
            have hexpired : { r with tokenHash := hash }.isExpired now = r.isExpired now := rfl
            rw [hexpired]
            split
            · exact Flows.done (ExceptRel.error _)
            · split
              · exact flows_refusing (secretFree_revokeForReuse r)
              · exact flows_advance i

theorem flows_refresh (f : Facade) {s s' : Secret} (hs : m.Secrets s s') :
    m.Flows (ExceptRel m.Credentials) (f.refresh s) (f.refresh s') := by
  unfold Facade.refresh
  apply (flows_rotate f.issuer hs).bind
  intro result result' hresult
  cases hresult with
  | error j =>
      apply flows_after (Facade.secretFree_reportRejection j)
      intro _
      exact Flows.done (ExceptRel.error _)
  | @ok o _ ho =>
      cases ho with
      | intro hsecret =>
          apply flows_after (secretFree_report _ _ _ _)
          intro _
          exact Flows.done (ExceptRel.ok (Credentials.intro
            ⟨o.subject, o.family, o.access, f.issuer.accessSeconds, o.secret, o.expiresAt⟩ hsecret))

theorem flows_logout {s s' : Secret} (hs : m.Secrets s s') :
    m.Flows Eq (Facade.logout s) (Facade.logout s') := by
  have hrevoke : m.Flows Eq (revokePresented s .logout) (revokePresented s' .logout) := by
    unfold revokePresented
    apply (flows_findPresented hs).bind
    intro y y' hy
    cases hy with
    | none => exact Flows.done rfl
    | some hr =>
        cases hr
        apply flows_after (secretFree_call rfl)
        intro records
        exact Flows.done rfl
  unfold Facade.logout
  apply hrevoke.bind
  rintro y _ rfl
  cases y with
  | none => exact flows_of_secretFree (secretFree_note _)
  | some revoked =>
      apply flows_after (secretFree_note _)
      intro _
      exact flows_of_secretFree (secretFree_report _ _ _ _)

end Rotating

theorem flows_listSessions (subject : SubjectId) :
    m.Flows Eq (Facade.listSessions subject) (Facade.listSessions subject) := by
  unfold Facade.listSessions
  apply (flows_call (Calls.activeRecords subject)).bind
  intro rs rs' hrs
  apply flows_after secretFree_now
  intro now
  apply Flows.done
  induction hrs with
  | nil => rfl
  | @cons r r' rs rs' hr _ ih =>
      have hexpired : r.isExpired now = r'.isExpired now := by
        cases hr
        rfl
      have hinfo : Info.ofRecord r = Info.ofRecord r' := by
        cases hr
        rfl
      rw [List.filter_cons, List.filter_cons, hexpired]
      split
      · rw [List.map_cons, List.map_cons, hinfo, ih]
      · exact ih

end Refresh.Mirror

end SessionAuth
