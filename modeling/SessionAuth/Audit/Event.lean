import SessionAuth.Json.Value
import SessionAuth.Time.Calendar
import SessionAuth.Uuid

/-!
# Audit events

What the service reports about the security of accounts and resources.  Keeping and searching the
events is the business of whoever receives them.
-/

namespace SessionAuth
namespace Audit

open Time

inductive Severity where
  | info
  | warning
  | critical
deriving DecidableEq, Repr

namespace Severity

def name : Severity → String
  | info => "info"
  | warning => "warning"
  | critical => "critical"

def rank : Severity → Nat
  | info => 0
  | warning => 1
  | critical => 2

end Severity

inductive Kind where
  | loginSucceeded
  | loginFailed
  | tokenRefreshed
  | refreshRejected
  | refreshReuseDetected
  | sessionLoggedOut
  | passwordChanged
  | passwordChangeFailed
  | sessionsRevoked
  | authzGranted
  | authzAdminOverride
  | authzDenied
deriving DecidableEq, Repr

namespace Kind

def name : Kind → String
  | loginSucceeded => "login_succeeded"
  | loginFailed => "login_failed"
  | tokenRefreshed => "token_refreshed"
  | refreshRejected => "refresh_rejected"
  | refreshReuseDetected => "refresh_reuse_detected"
  | sessionLoggedOut => "session_logged_out"
  | passwordChanged => "password_changed"
  | passwordChangeFailed => "password_change_failed"
  | sessionsRevoked => "sessions_revoked"
  | authzGranted => "authz_granted"
  | authzAdminOverride => "authz_admin_override"
  | authzDenied => "authz_denied"

def all : List Kind :=
  [loginSucceeded, loginFailed, tokenRefreshed, refreshRejected, refreshReuseDetected,
    sessionLoggedOut, passwordChanged, passwordChangeFailed, sessionsRevoked, authzGranted,
    authzAdminOverride, authzDenied]

def ofName? (s : String) : Option Kind :=
  all.find? (fun k => k.name == s)

/-- The severity of a kind.  Reuse of a credential is a sign of theft. -/
def severity : Kind → Severity
  | refreshReuseDetected => .critical
  | loginFailed => .warning
  | refreshRejected => .warning
  | passwordChangeFailed => .warning
  | authzAdminOverride => .warning
  | authzDenied => .warning
  | _ => .info

end Kind

inductive Outcome where
  | success
  | failure
deriving DecidableEq, Repr

namespace Outcome

def name : Outcome → String
  | success => "success"
  | failure => "failure"

end Outcome

structure Event where
  id : Id .event
  kind : Kind
  subject : Option SubjectId
  outcome : Outcome
  context : JsonValue
  createdAt : Instant

namespace Event

def severity (e : Event) : Severity :=
  e.kind.severity

def toJson (e : Event) : JsonValue :=
  .object
    [("event_id", .string e.id.text),
     ("event_type", .string e.kind.name),
     ("severity", .string e.severity.name),
     ("subject_id", .optionalString (e.subject.map Id.text)),
     ("outcome", .string e.outcome.name),
     ("context", e.context),
     ("created_utc", .string e.createdAt.text)]

end Event

end Audit
end SessionAuth
