import SessionAuth.Access.Issuer
import SessionAuth.Encoding.Ranges
import SessionAuth.Flow.Basic

/-!
# Rotation

A refresh credential is exchanged for its successor.  Whoever presents a credential that has been
exchanged before holds a copy of it, and so its whole family is withdrawn.
-/

namespace SessionAuth
namespace Session

open Time Access

structure Rotated where
  subject : SubjectId
  family : FamilyId
  generation : Int
  previous : RecordId
  access : Credential
  secret : Refresh.Secret
  expiresAt : Instant

inductive Rejection where
  | unknown
  | familyRevoked (subject : SubjectId) (family : FamilyId)
  | expired (subject : SubjectId) (family : FamilyId)
  | subjectInactive (subject : SubjectId) (family : FamilyId)
  | reuseDetected (subject : SubjectId) (family : FamilyId) (records : Nat)
deriving DecidableEq

namespace Rejection

def failure : Rejection → Failure
  | unknown => .invalidCredential
  | familyRevoked _ _ => .invalidCredential
  | expired _ _ => .expired
  | subjectInactive _ _ => .accountInactive
  | reuseDetected _ _ _ => .reuseDetected

def code : Rejection → String
  | unknown => "unknown"
  | familyRevoked _ _ => "family_revoked"
  | expired _ _ => "expired"
  | subjectInactive _ _ => "subject_inactive"
  | reuseDetected _ _ _ => "reuse_detected"

def subject? : Rejection → Option SubjectId
  | unknown => none
  | familyRevoked subject _ => some subject
  | expired subject _ => some subject
  | subjectInactive subject _ => some subject
  | reuseDetected subject _ _ => some subject

def family? : Rejection → Option FamilyId
  | unknown => none
  | familyRevoked _ family => some family
  | expired _ family => some family
  | subjectInactive _ family => some family
  | reuseDetected _ family _ => some family

end Rejection

structure RevokedFamily where
  subject : SubjectId
  family : FamilyId
  records : Nat
deriving DecidableEq

def maxGeneration : Int := Encoding.IntRange.int32.high

/-- The generation after another one.  Past the last one the sum overflows and the request ends, as
it does where sums are checked.  A sum that wraps around instead is not modelled. -/
def nextGeneration (n : Int) : Except Halt Int :=
  if n < maxGeneration then .ok (n + 1) else .error (.overflow .generation)

def issueAccess (i : Issuer) (subject : SubjectId) (admin : Bool) (family : Option FamilyId) :
    Flow Credential := do
  let now ← Flow.now
  let tokenId ← Flow.newId .accessToken
  Flow.ofExcept (i.issueAccess now tokenId subject admin family)

/-- Issues a refresh credential.  Its record is not stored yet. -/
def issueRefresh (i : Issuer) (subject : SubjectId) (family : FamilyId) (generation : Int) :
    Flow (Refresh.Secret × Refresh.Record) := do
  let secret ← Flow.perform .freshSecret
  let now ← Flow.now
  let id ← Flow.newId .record
  return (secret, i.issueRefresh now id secret subject family generation)

def revokeForReuse (r : Refresh.Record) : Flow Rejection := do
  let records ← Flow.call (.revokeFamily r.family .reuseDetected)
  Flow.note (.reuseDetected r.subject r.family r.generation records)
  return .reuseDetected r.subject r.family records

def revokeForSubject (r : Refresh.Record) : Flow Rejection := do
  let records ← Flow.call (.revokeFamily r.family .subjectRevoked)
  Flow.note (.refreshForUnusableSubject r.subject r.family records)
  return .subjectInactive r.subject r.family

/-- Exchanges an active credential of a usable subject.  The access token is signed before the
transition, so that a failure to sign leaves the credential as it was. -/
def exchange (i : Issuer) (s : Subject) (r : Refresh.Record) : Flow (Except Rejection Rotated) := do
  let access ← issueAccess i s.id s.admin (some r.family)
  let generation ← Flow.ofExcept (nextGeneration r.generation)
  let (secret, successor) ← issueRefresh i s.id r.family generation
  match ← Flow.call (.transition r.id .active .consumed (some successor)) with
  | .applied =>
      Flow.note (.refreshRotated r.family generation)
      return .ok ⟨s.id, r.family, generation, r.id, access, secret, successor.expiresAt⟩
  | .stateMismatch .consumed => return .error (← revokeForReuse r)
  | .stateMismatch _ => return .error (.familyRevoked r.subject r.family)
  | .familyRevoked => return .error (.familyRevoked r.subject r.family)
  | .notFound => return .error .unknown

def advance (i : Issuer) (r : Refresh.Record) : Flow (Except Rejection Rotated) := do
  match ← Flow.call (.findById r.subject) with
  | none => return .error (← revokeForSubject r)
  | some s => if s.isUsable then exchange i s r else return .error (← revokeForSubject r)

/-- The record of a presented secret.  A record that the store gives for the hash of a secret and
that does not belong to it counts for nothing. -/
def findPresented (s : Refresh.Secret) : Flow (Option Refresh.Record) := do
  return (← Flow.call (.findByHash s.hash)).filter (fun r => r.belongsTo s)

def rotate (i : Issuer) (s : Refresh.Secret) : Flow (Except Rejection Rotated) := do
  match ← findPresented s with
  | none => return .error .unknown
  | some r =>
      match r.state with
      | .revoked =>
          Flow.note (.refreshOnRevokedFamily r.family)
          return .error (.familyRevoked r.subject r.family)
      | state =>
          if r.isExpired (← Flow.now) then return .error (.expired r.subject r.family)
          else if state = .consumed then return .error (← revokeForReuse r)
          else advance i r

def revokePresented (s : Refresh.Secret) (reason : Refresh.Reason) :
    Flow (Option RevokedFamily) := do
  match ← findPresented s with
  | none => return none
  | some r =>
      let records ← Flow.call (.revokeFamily r.family reason)
      return some ⟨r.subject, r.family, records⟩

def revokeSubject (subject : SubjectId) (reason : Refresh.Reason) : Flow (List FamilyId) := do
  let families ← Flow.call (.revokeSubjectFamilies subject reason)
  Flow.note (.subjectFamiliesRevoked subject families.length reason)
  return families

end Session
end SessionAuth
