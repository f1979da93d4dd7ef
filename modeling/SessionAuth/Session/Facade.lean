import SessionAuth.Session.Rotation

/-!
# Sessions

The requests about sessions: to log in, to refresh, to log out, to change a password, and to list
or end all sessions of a subject.  Each request that succeeds or is refused reports exactly one
event, apart from listing and from logging out with a secret that nobody knows.
-/

namespace SessionAuth
namespace Session

open Time Access

/-- What the requests need to know: the cost of hashing, the issuer of credentials, and the
password policy. -/
structure Facade where
  cost : Crypto.Argon2.Cost
  issuer : Issuer
  policy : Password.Policy

structure Tokens where
  subject : SubjectId
  family : FamilyId
  access : Credential
  accessSeconds : Int
  refresh : Refresh.Secret
  refreshExpiresAt : Instant

namespace Tokens

def tokenType : String := "Bearer"

end Tokens

structure Info where
  family : FamilyId
  generation : Int
  lastRotatedAt : Instant
  expiresAt : Instant
deriving DecidableEq

namespace Info

def ofRecord (r : Refresh.Record) : Info :=
  ⟨r.family, r.generation, r.createdAt, r.expiresAt⟩

def toJson (s : Info) : JsonValue :=
  .object
    [("family_id", .string s.family.text), ("generation", .int s.generation),
     ("last_rotated_utc", .string s.lastRotatedAt.text), ("expires_utc", .string s.expiresAt.text)]

end Info

namespace Facade

/-! # Logging in -/

def rejectLogin (subject : Option SubjectId) (failure : Failure) (reason : String) :
    Flow (Except Failure Tokens) := do
  Flow.note (.loginRejected subject reason)
  Flow.report .loginFailed subject .failure [("reason", .string reason)]
  return .error failure

/-- Opens a session for a subject that has shown its password. -/
def openSession (f : Facade) (s : Subject) : Flow (Except Failure Tokens) := do
  let family ← Flow.newId .family
  let access ← issueAccess f.issuer s.id s.admin (some family)
  let (secret, record) ← issueRefresh f.issuer s.id family 0
  Flow.call (.insert record)
  Flow.call (.recordAuthentication s.id (← Flow.now))
  Flow.note (.loginSucceeded s.id family access.keyId)
  Flow.report .loginSucceeded (some s.id) .success [("family_id", .string family.text)]
  return .ok ⟨s.id, family, access, f.issuer.accessSeconds, secret, record.expiresAt⟩

def login (f : Facade) (identifier password : String) : Flow (Except Failure Tokens) := do
  match ← Flow.call (.findByIdentifier identifier) with
  | none => rejectLogin none .invalidCredential "unknown_identifier"
  | some s =>
      if !(← Flow.perform (.verify password s.passwordHash)).accepts then
        rejectLogin (some s.id) .invalidCredential "wrong_password"
      else if !s.isUsable then rejectLogin (some s.id) .accountInactive "account_inactive"
      else f.openSession s

/-! # Refreshing -/

def reportRejection (r : Rejection) : Flow Unit :=
  let family := JsonValue.optionalString (r.family?.map Id.text)
  match r with
  | .reuseDetected _ _ records =>
      Flow.report .refreshReuseDetected r.subject? .failure
        [("family_id", family), ("revoked_records", .int records)]
  | _ =>
      Flow.report .refreshRejected r.subject? .failure
        [("family_id", family), ("reason", .string r.code)]

def refresh (f : Facade) (presented : Refresh.Secret) : Flow (Except Failure Tokens) := do
  match ← rotate f.issuer presented with
  | .ok r =>
      Flow.report .tokenRefreshed (some r.subject) .success
        [("family_id", .string r.family.text), ("generation", .int r.generation),
         ("previous_record_id", .string r.previous.text)]
      return .ok ⟨r.subject, r.family, r.access, f.issuer.accessSeconds, r.secret, r.expiresAt⟩
  | .error rejection =>
      reportRejection rejection
      return .error rejection.failure

/-! # Logging out -/

def logout (presented : Refresh.Secret) : Flow Unit := do
  match ← revokePresented presented .logout with
  | none => Flow.note .logoutUnknown
  | some revoked =>
      Flow.note (.logout revoked.subject revoked.family)
      Flow.report .sessionLoggedOut (some revoked.subject) .success
        [("family_id", .string revoked.family.text), ("revoked_records", .int revoked.records)]

/-! # Changing the password -/

def rejectChange (subject : SubjectId) (failure : Failure) : Flow (Except Failure Unit) := do
  Flow.note (.passwordChangeRejected subject failure)
  Flow.report .passwordChangeFailed (some subject) .failure [("reason", .string failure.code)]
  return .error failure

/-- Replaces the password of a subject and ends its sessions.  They are ended once before the
change and once after it, for the sake of logins that have seen the old password in between. -/
def replacePassword (f : Facade) (subject : SubjectId) (new : String) :
    Flow (Except Failure Unit) := do
  let salt ← Flow.perform .freshSalt
  let hash := (Password.hash f.cost salt new).text
  let before ← revokeSubject subject .passwordChange
  Flow.call (.markPasswordChanged subject hash)
  let after ← revokeSubject subject .passwordChange
  let families := before.length + after.length
  Flow.note (.passwordChanged subject families)
  Flow.report .passwordChanged (some subject) .success [("revoked_families", .int families)]
  return .ok ()

def changePassword (f : Facade) (subject : SubjectId) (current new : String) :
    Flow (Except Failure Unit) := do
  match ← Flow.call (.findById subject) with
  | none => rejectChange subject .invalidCredential
  | some s =>
      if !(← Flow.perform (.verify current s.passwordHash)).accepts then
        rejectChange subject .invalidCredential
      else if !s.isUsable then rejectChange subject .accountInactive
      else if current = new then rejectChange subject (.policyViolation .unchanged)
      else
        match f.policy.validate new with
        | .error violation => rejectChange subject (.policyViolation violation)
        | .ok _ => f.replacePassword subject new

/-! # Looking at sessions and ending them -/

def revokeAll (subject : SubjectId) : Flow Nat := do
  let families ← revokeSubject subject .subjectRevoked
  Flow.report .sessionsRevoked (some subject) .success [("revoked_families", .int families.length)]
  return families.length

/-- The sessions of a subject that can still be refreshed. -/
def listSessions (subject : SubjectId) : Flow (List Info) := do
  let records ← Flow.call (.activeRecords subject)
  let now ← Flow.now
  return (records.filter (fun r => !r.isExpired now)).map Info.ofRecord

def authenticate (f : Facade) (token : String) : Flow (Except Failure Verified) := do
  match f.issuer.verify (← Flow.now).seconds token with
  | .ok v => return .ok v
  | .error .refused =>
      Flow.note .tokenRefused
      return .error TokenRejection.refused.failure
  | .error rejection => return .error rejection.failure

end Facade

end Session
end SessionAuth
