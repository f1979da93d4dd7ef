import SessionAuth.Password.Policy

/-!
# Refusals

The answers to a caller whose request is understood and refused.  What the caller may read is the
same for every refusal that concerns credentials.
-/

namespace SessionAuth

inductive Failure where
  | invalidCredential
  | expired
  | accountInactive
  | reuseDetected
  | permissionDenied
  | policyViolation (v : Password.Violation)
deriving DecidableEq, Repr

namespace Failure

def generic : String := "Invalid credentials"

def code : Failure → String
  | invalidCredential => "invalid_credential"
  | expired => "expired"
  | accountInactive => "account_inactive"
  | reuseDetected => "reuse_detected"
  | permissionDenied => "permission_denied"
  | policyViolation _ => "policy_violation"

def message : Failure → String
  | invalidCredential => "Invalid credential"
  | expired => "Credential expired"
  | accountInactive => "Account inactive"
  | reuseDetected => "Refresh credential reuse detected"
  | permissionDenied => "Permission denied"
  | policyViolation v => "Password policy violation: " ++ v.message

def publicMessage : Failure → String
  | permissionDenied => "Permission denied"
  | policyViolation v => v.message
  | _ => generic

end Failure

end SessionAuth
