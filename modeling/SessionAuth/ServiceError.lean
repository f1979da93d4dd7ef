import SessionAuth.Failure
import SessionAuth.Fault

/-!
# Errors of a service

What a request ends in when it is neither answered nor granted: a kind that fixes the status of
the response, a text for operators, and a message for the caller.  Internal kinds never show
their text to the caller.
-/

namespace SessionAuth

inductive ServiceError where
  | badRequest (text : String)
  | unauthorized (text : String)
  | forbidden (text : String)
  | internal (text : String)
  | unavailable
  | database (text : String)
  | configuration (text : String)
deriving DecidableEq, Repr

namespace ServiceError

def status : ServiceError → Nat
  | badRequest _ => 400
  | unauthorized _ => 401
  | forbidden _ => 403
  | internal _ => 500
  | unavailable => 503
  | database _ => 500
  | configuration _ => 500

def publicMessage : ServiceError → String
  | badRequest text => text
  | unauthorized text => text
  | forbidden text => text
  | unavailable => "Service unavailable"
  | internal _ => "Internal server error"
  | database _ => "Internal server error"
  | configuration _ => "Internal server error"

def message : ServiceError → String
  | badRequest text => "Bad request: " ++ text
  | unauthorized text => "Unauthorized: " ++ text
  | forbidden text => "Forbidden: " ++ text
  | internal text => "Internal server error: " ++ text
  | unavailable => "Service Unavailable"
  | database text => "Database error: " ++ text
  | configuration text => "Configuration error: " ++ text

end ServiceError

namespace Failure

def toServiceError (f : Failure) : ServiceError :=
  match f with
  | permissionDenied => .forbidden f.publicMessage
  | policyViolation _ => .badRequest f.publicMessage
  | _ => .unauthorized generic

end Failure

namespace Fault

def toServiceError (f : Fault) : ServiceError :=
  match f with
  | store e => .database e.message
  | assembly e => .configuration e.message
  | _ => .internal f.message

end Fault

end SessionAuth
