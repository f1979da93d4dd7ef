import SessionAuth.Refresh.Secret
import SessionAuth.Time.Instant
import SessionAuth.Uuid

/-!
# Refresh records

One record for each refresh credential that was issued.  The records that descend from one login
form a family, in which at most one is active at any time.
-/

namespace SessionAuth
namespace Refresh

open Time

/-- The state of a record: it can still be presented, it has been exchanged for its successor, or
it has been withdrawn. -/
inductive State where
  | active
  | consumed
  | revoked
deriving DecidableEq, Repr

namespace State

def name : State → String
  | active => "active"
  | consumed => "consumed"
  | revoked => "revoked"

def ofName? (s : String) : Option State :=
  [active, consumed, revoked].find? (fun state => state.name == s)

end State

inductive Reason where
  | logout
  | passwordChange
  | reuseDetected
  | subjectRevoked
deriving DecidableEq, Repr

namespace Reason

def name : Reason → String
  | logout => "logout"
  | passwordChange => "password_change"
  | reuseDetected => "reuse_detected"
  | subjectRevoked => "subject_revoked"

def ofName? (s : String) : Option Reason :=
  [logout, passwordChange, reuseDetected, subjectRevoked].find? (fun reason => reason.name == s)

end Reason

structure Record where
  id : RecordId
  subject : SubjectId
  family : FamilyId
  generation : Int
  tokenHash : String
  state : State
  replacedBy : Option RecordId
  reason : Option Reason
  expiresAt : Instant
  createdAt : Instant
  consumedAt : Option Instant
  revokedAt : Option Instant
deriving DecidableEq

/-- The instant at which a credential of the given lifetime expires: the end of the calendar if
no earlier instant will do. -/
def expiry (now : Instant) (lifetime : Span) : Instant :=
  (now.add? lifetime).getD Instant.latest

namespace Record

def issue (now : Instant) (id : RecordId) (subject : SubjectId) (family : FamilyId)
    (generation : Int) (secret : Secret) (lifetime : Span) : Record where
  id := id
  subject := subject
  family := family
  generation := generation
  tokenHash := secret.hash
  state := .active
  replacedBy := none
  reason := none
  expiresAt := expiry now lifetime
  createdAt := now
  consumedAt := none
  revokedAt := none

def belongsTo (r : Record) (s : Secret) : Bool :=
  s.hash == r.tokenHash

def isExpired (r : Record) (now : Instant) : Bool :=
  decide (r.expiresAt ≤ now)

def isActive (r : Record) : Bool :=
  r.state == .active

/-- The record withdrawn at an instant.  A record that was withdrawn before keeps its reason. -/
def revoke (r : Record) (now : Instant) (reason : Reason) : Record :=
  if r.state = .revoked then r
  else { r with state := .revoked, reason := some reason, revokedAt := some now }

def moveTo (r : Record) (now : Instant) (state : State) (successor : Option RecordId) : Record :=
  { r with
    state := state
    consumedAt := if state = .consumed then some now else r.consumedAt
    revokedAt := if state = .revoked then some now else r.revokedAt
    replacedBy := successor.or r.replacedBy }

end Record

end Refresh
end SessionAuth
