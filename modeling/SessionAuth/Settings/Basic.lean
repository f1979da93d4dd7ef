import SessionAuth.Crypto.Argon2
import SessionAuth.Password.Policy

/-!
# Settings

What an operator decides about the service, with the values that stand where nothing is said.
-/

namespace SessionAuth

inductive Environment where
  | dev
  | prod
deriving DecidableEq, Repr

namespace Environment

def name : Environment → String
  | dev => "dev"
  | prod => "prod"

def ofName? (s : String) : Option Environment :=
  [dev, prod].find? (fun e => e.name == s)

end Environment

/-- A key that signs access tokens.  A retired key verifies only. -/
structure SigningKey where
  id : String
  secret : String
  retired : Bool
deriving DecidableEq, Repr

structure TokenSettings where
  issuer : String
  activeKeyId : String
  keys : List SigningKey
  accessMinutes : Int
  refreshDays : Int
deriving DecidableEq, Repr

namespace TokenSettings

def standardIssuer : String := "auth-core"

def standardAccessMinutes : Int := 15

def standardRefreshDays : Int := 7

end TokenSettings

structure PasswordSettings where
  memoryKib : Nat
  iterations : Nat
  policy : Password.Policy
deriving DecidableEq, Repr

namespace PasswordSettings

def standard : PasswordSettings :=
  ⟨65536, 3, .standard⟩

def cost (p : PasswordSettings) : Crypto.Argon2.Cost :=
  ⟨p.memoryKib, p.iterations, 1⟩

end PasswordSettings

structure DatabaseSettings where
  url : String
  maxConnections : Nat
  minConnections : Nat
deriving DecidableEq, Repr

namespace DatabaseSettings

def standardMost : Nat := 10

def standardLeast : Nat := 1

end DatabaseSettings

structure AuditSettings where
  channelCapacity : Nat
deriving DecidableEq, Repr

namespace AuditSettings

def standard : AuditSettings :=
  ⟨1024⟩

end AuditSettings

structure Settings where
  environment : Environment
  serviceName : String
  logLevel : String
  otlpEndpoint : Option String
  tokens : TokenSettings
  password : PasswordSettings
  database : Option DatabaseSettings
  audit : AuditSettings
deriving DecidableEq, Repr

namespace Settings

def standardServiceName : String := "auth-core"

def standardLogLevel : String := "info"

end Settings

end SessionAuth
