import SessionAuth.Audit.Event
import SessionAuth.Failure
import SessionAuth.Fault
import SessionAuth.Grant
import SessionAuth.Refresh.Record

/-!
# Notices

What the service writes to its log for operators: a level, a message, and fields.
-/

namespace SessionAuth

inductive NoticeLevel where
  | debug
  | info
  | warn
  | error
deriving DecidableEq, Repr

namespace NoticeLevel

def name : NoticeLevel → String
  | debug => "DEBUG"
  | info => "INFO"
  | warn => "WARN"
  | error => "ERROR"

def ofSeverity : Audit.Severity → NoticeLevel
  | .info => info
  | .warning => warn
  | .critical => error

end NoticeLevel

inductive QueueRefusal where
  | full
  | closed
deriving DecidableEq, Repr

namespace QueueRefusal

def name : QueueRefusal → String
  | full => "full"
  | closed => "closed"

end QueueRefusal

inductive Notice where
  | issuerReady (activeKeyId : String) (keys : Nat)
  | coreReady (service environment : String)
  | tokenRefused
  | storedHashMalformed
  | storedHashUnverifiable
  | loginSucceeded (subject : SubjectId) (family : FamilyId) (keyId : String)
  | loginRejected (subject : Option SubjectId) (reason : String)
  | logout (subject : SubjectId) (family : FamilyId)
  | logoutUnknown
  | passwordChanged (subject : SubjectId) (families : Nat)
  | passwordChangeRejected (subject : SubjectId) (failure : Failure)
  | refreshOnRevokedFamily (family : FamilyId)
  | refreshForUnusableSubject (subject : SubjectId) (family : FamilyId) (records : Nat)
  | refreshRotated (family : FamilyId) (generation : Int)
  | reuseDetected (subject : SubjectId) (family : FamilyId) (generation : Int) (records : Nat)
  | subjectFamiliesRevoked (subject : SubjectId) (families : Nat) (reason : Refresh.Reason)
  | administratorOverride (subject : SubjectId) (resource : ResourceId) (required : Level)
  | shortPasswordsInProduction
  | databaseUnhealthy (e : StoreError)
  | eventNotQueued (e : Audit.Event) (reason : QueueRefusal)
  | securityEvent (e : Audit.Event)

namespace Notice

def level : Notice → NoticeLevel
  | issuerReady _ _ => .info
  | coreReady _ _ => .info
  | tokenRefused => .debug
  | storedHashMalformed => .warn
  | storedHashUnverifiable => .warn
  | loginSucceeded _ _ _ => .info
  | loginRejected _ _ => .warn
  | logout _ _ => .info
  | logoutUnknown => .debug
  | passwordChanged _ _ => .info
  | passwordChangeRejected _ _ => .warn
  | refreshOnRevokedFamily _ => .info
  | refreshForUnusableSubject _ _ _ => .info
  | refreshRotated _ _ => .debug
  | reuseDetected _ _ _ _ => .error
  | subjectFamiliesRevoked _ _ _ => .info
  | administratorOverride _ _ _ => .warn
  | shortPasswordsInProduction => .error
  | databaseUnhealthy _ => .error
  | eventNotQueued _ _ => .error
  | securityEvent e => .ofSeverity e.severity

def message : Notice → String
  | issuerReady _ _ => "Token issuer initialized with HS256 key ring"
  | coreReady _ _ => "Auth core initialized"
  | tokenRefused => "Access credential rejected"
  | storedHashMalformed => "Stored credential hash is malformed"
  | storedHashUnverifiable => "Credential hash could not be verified"
  | loginSucceeded _ _ _ => "Login succeeded"
  | loginRejected _ _ => "Login rejected"
  | logout _ _ => "Logout"
  | logoutUnknown => "Logout with unknown refresh credential"
  | passwordChanged _ _ => "Password changed"
  | passwordChangeRejected _ _ => "Password change rejected"
  | refreshOnRevokedFamily _ => "Refresh attempted on revoked family"
  | refreshForUnusableSubject _ _ _ => "Refresh for unusable subject; family revoked"
  | refreshRotated _ _ => "Refresh credential rotated"
  | reuseDetected _ _ _ _ => "Refresh credential reuse detected; family revoked"
  | subjectFamiliesRevoked _ _ _ => "Subject refresh families revoked"
  | administratorOverride _ _ _ => "Administrator override"
  | shortPasswordsInProduction =>
      "Password policy allows passwords shorter than 8 characters in production"
  | databaseUnhealthy e => (StoreError.unhealthy e).message
  | eventNotQueued _ _ => "Failed to queue security audit event"
  | securityEvent _ => "Security event"

def isAudit : Notice → Bool
  | securityEvent _ => true
  | _ => false

def fields : Notice → List (String × JsonValue)
  | issuerReady activeKeyId keys =>
      [("active_key_id", .string activeKeyId), ("key_count", .int keys)]
  | coreReady service environment =>
      [("service", .string service), ("environment", .string environment)]
  | tokenRefused => []
  | storedHashMalformed => []
  | storedHashUnverifiable => []
  | loginSucceeded subject family keyId =>
      [("subject_id", .string subject.text), ("family_id", .string family.text),
       ("key_id", .string keyId)]
  | loginRejected subject reason =>
      [("subject_id", .optionalString (subject.map Id.text)), ("reason", .string reason)]
  | logout subject family =>
      [("subject_id", .string subject.text), ("family_id", .string family.text)]
  | logoutUnknown => []
  | passwordChanged subject families =>
      [("subject_id", .string subject.text), ("revoked_families", .int families)]
  | passwordChangeRejected subject failure =>
      [("subject_id", .string subject.text), ("reason", .string failure.code)]
  | refreshOnRevokedFamily family => [("family_id", .string family.text)]
  | refreshForUnusableSubject subject family records =>
      [("subject_id", .string subject.text), ("family_id", .string family.text),
       ("revoked", .int records)]
  | refreshRotated family generation =>
      [("family_id", .string family.text), ("generation", .int generation)]
  | reuseDetected subject family generation records =>
      [("subject_id", .string subject.text), ("family_id", .string family.text),
       ("generation", .int generation), ("revoked_records", .int records)]
  | subjectFamiliesRevoked subject families reason =>
      [("subject_id", .string subject.text), ("families", .int families),
       ("reason", .string reason.name)]
  | administratorOverride subject resource required =>
      [("subject_id", .string subject.text), ("resource_id", .string resource.text),
       ("required", .string required.name)]
  | shortPasswordsInProduction => []
  | databaseUnhealthy _ => []
  | eventNotQueued e reason =>
      [("event_id", .string e.id.text), ("event_type", .string e.kind.name),
       ("severity", .string e.severity.name), ("reason", .string reason.name)]
  | securityEvent e =>
      [("event_id", .string e.id.text), ("event_type", .string e.kind.name),
       ("outcome", .string e.outcome.name),
       ("subject_id", .optionalString (e.subject.map Id.text)), ("context", e.context)]

end Notice

end SessionAuth
