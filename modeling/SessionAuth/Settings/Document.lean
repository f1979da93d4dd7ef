import SessionAuth.Encoding.Ranges
import SessionAuth.Json.Value
import SessionAuth.Settings.Basic

/-!
# Settings as a document

The strict reading of settings from a JSON document.  Every value must have the type of its
setting, members that name no setting are ignored, and a missing member takes its standard value
where there is one.  A group of settings may also be an array of their values in order.
-/

namespace SessionAuth
namespace Settings
namespace Document

open Encoding

/-- A group of settings: what the document says about each name. -/
abbrev Group := String → Option JsonValue

def group? (names : List String) (v : JsonValue) : Option Group :=
  match v with
  | .object _ => some v.member?
  | .array items =>
      if items.length ≤ names.length then some (fun name => items[names.idxOf name]?) else none
  | _ => none

def required {α : Type} (read : JsonValue → Option α) (g : Group) (name : String) : Option α :=
  (g name).bind read

def standing {α : Type} (standard : α) (read : JsonValue → Option α) (g : Group) (name : String) :
    Option α :=
  match g name with
  | none => some standard
  | some v => read v

def optional {α : Type} (read : JsonValue → Option α) : JsonValue → Option (Option α)
  | .null => some none
  | v => (read v).map some

def integer (r : IntRange) (v : JsonValue) : Option Int :=
  v.asInt?.bind r.check?

def int64 (v : JsonValue) : Option Int :=
  integer .int64 v

def word32 (v : JsonValue) : Option Nat :=
  (integer .word32 v).map Int.toNat

def word64 (v : JsonValue) : Option Nat :=
  (integer .word64 v).map Int.toNat

def environment : JsonValue → Option Environment
  | .string s => Environment.ofName? s
  | .object [(name, .null)] => Environment.ofName? name
  | _ => none

def signingKey (v : JsonValue) : Option SigningKey := do
  let g ← group? ["kid", "secret", "retired"] v
  return ⟨← required (·.asString?) g "kid", ← required (·.asString?) g "secret",
    ← standing false (·.asBool?) g "retired"⟩

def tokens (v : JsonValue) : Option TokenSettings := do
  let g ← group? ["issuer", "active_key_id", "keys", "access_token_expiry_minutes",
    "refresh_token_expiry_days"] v
  let issuer ← standing TokenSettings.standardIssuer (·.asString?) g "issuer"
  let activeKeyId ← required (·.asString?) g "active_key_id"
  let keys ← required (fun v => do (← v.asArray?).mapM signingKey) g "keys"
  let minutes ← standing TokenSettings.standardAccessMinutes int64 g "access_token_expiry_minutes"
  let days ← standing TokenSettings.standardRefreshDays int64 g "refresh_token_expiry_days"
  return ⟨issuer, activeKeyId, keys, minutes, days⟩

def policy (v : JsonValue) : Option Password.Policy := do
  let g ← group? ["min_length", "require_uppercase", "require_number", "require_special"] v
  return ⟨← standing Password.Policy.standard.minLength word64 g "min_length",
    ← standing false (·.asBool?) g "require_uppercase",
    ← standing false (·.asBool?) g "require_number",
    ← standing false (·.asBool?) g "require_special"⟩

def password (v : JsonValue) : Option PasswordSettings := do
  let g ← group? ["memory_kib", "iterations", "policy"] v
  return ⟨← standing PasswordSettings.standard.memoryKib word32 g "memory_kib",
    ← standing PasswordSettings.standard.iterations word32 g "iterations",
    ← standing Password.Policy.standard policy g "policy"⟩

def database (v : JsonValue) : Option DatabaseSettings := do
  let g ← group? ["url", "max_connections", "min_connections"] v
  return ⟨← required (·.asString?) g "url",
    ← standing DatabaseSettings.standardMost word32 g "max_connections",
    ← standing DatabaseSettings.standardLeast word32 g "min_connections"⟩

def audit (v : JsonValue) : Option AuditSettings := do
  let g ← group? ["channel_capacity"] v
  return ⟨← standing AuditSettings.standard.channelCapacity word64 g "channel_capacity"⟩

end Document

open Document

def ofJson? (v : JsonValue) : Option Settings := do
  let g ← group? ["environment", "service_name", "log_level", "otlp_endpoint", "jwt", "password",
    "database", "audit"] v
  return {
    environment := ← standing .dev Document.environment g "environment"
    serviceName := ← standing standardServiceName (·.asString?) g "service_name"
    logLevel := ← standing standardLogLevel (·.asString?) g "log_level"
    otlpEndpoint := ← standing none (optional (·.asString?)) g "otlp_endpoint"
    tokens := ← required Document.tokens g "jwt"
    password := ← standing .standard Document.password g "password"
    database := ← standing none (optional Document.database) g "database"
    audit := ← standing .standard Document.audit g "audit" }

/-! # Writing -/

def policyJson (p : Password.Policy) : JsonValue :=
  .object
    [("min_length", .int p.minLength), ("require_uppercase", .bool p.requireUppercase),
     ("require_number", .bool p.requireNumber), ("require_special", .bool p.requireSpecial)]

def signingKeyJson (k : SigningKey) : JsonValue :=
  .object [("kid", .string k.id), ("secret", .string k.secret), ("retired", .bool k.retired)]

def tokensJson (t : TokenSettings) : JsonValue :=
  .object
    [("issuer", .string t.issuer), ("active_key_id", .string t.activeKeyId),
     ("keys", .array (t.keys.map signingKeyJson)),
     ("access_token_expiry_minutes", .int t.accessMinutes),
     ("refresh_token_expiry_days", .int t.refreshDays)]

def toJson (s : Settings) : JsonValue :=
  .object
    [("environment", .string s.environment.name),
     ("service_name", .string s.serviceName),
     ("log_level", .string s.logLevel),
     ("otlp_endpoint", .optionalString s.otlpEndpoint),
     ("jwt", tokensJson s.tokens),
     ("password", .object
       [("memory_kib", .int s.password.memoryKib), ("iterations", .int s.password.iterations),
        ("policy", policyJson s.password.policy)]),
     ("database", .ofOption (fun d => .object
       [("url", .string d.url), ("max_connections", .int d.maxConnections),
        ("min_connections", .int d.minConnections)]) s.database),
     ("audit", .object [("channel_capacity", .int s.audit.channelCapacity)])]

end Settings
end SessionAuth
