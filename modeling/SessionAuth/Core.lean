import SessionAuth.Permission.Engine
import SessionAuth.Session.Facade
import SessionAuth.Settings.DatabaseAddress
import SessionAuth.Settings.Validation

/-!
# The core

The service as its settings make it.  The settings need not be valid for that: a core is
assembled whenever its parts can work at all.
-/

namespace SessionAuth

open Time

structure Core where
  sessions : Session.Facade
  settings : Settings

namespace Core

def checkCost (p : PasswordSettings) : Except Fault Crypto.Argon2.Cost :=
  match p.cost.check with
  | .error e => .error (.assembly (.workFactor e))
  | .ok _ => .ok p.cost

def assemble (now : Instant) (s : Settings) : Except Fault Core := do
  let cost ← checkCost s.password
  let issuer ← Access.Issuer.assemble now s.tokens
  return ⟨⟨cost, issuer, s.password.policy⟩, s⟩

def issuerNotice (i : Access.Issuer) : Notice :=
  .issuerReady i.activeKeyId i.keys.length

def notices (c : Core) : List Notice :=
  [issuerNotice c.sessions.issuer, .coreReady c.settings.serviceName c.settings.environment.name]

def connectionFault? (s : Settings) : Option Fault :=
  match s.database with
  | none => some (.assembly .databaseMissing)
  | some d => (DatabaseAddress.error? d.url).map (fun e => .store (.address e))

end Core

end SessionAuth
