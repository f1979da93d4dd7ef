import SessionAuth.Settings.Basic

/-!
# Valid settings

The settings with which the service may run.  The first rule that is broken is reported.
-/

namespace SessionAuth

inductive SettingsError where
  | accessMinutesNotPositive
  | accessMinutesTooMany
  | refreshDaysNotPositive
  | refreshDaysTooMany
  | duplicateKey (id : String)
  | shortSecret (id : String)
  | activeKeyMissing (id : String)
  | activeKeyRetired (id : String)
  | workFactor (e : Crypto.Argon2.CostError)
  | emptyChannel
  | weakProductionCost
deriving DecidableEq, Repr

namespace Settings

def minSecretOctets : Nat := 32

def maxAccessMinutes : Int := 60

def maxRefreshDays : Int := 365

def minProductionMemoryKib : Nat := 19456

end Settings

namespace SettingsError

def message : SettingsError → String
  | accessMinutesNotPositive => "jwt.access_token_expiry_minutes must be positive"
  | accessMinutesTooMany =>
      "jwt.access_token_expiry_minutes must not exceed " ++ toString Settings.maxAccessMinutes
  | refreshDaysNotPositive => "jwt.refresh_token_expiry_days must be positive"
  | refreshDaysTooMany =>
      "jwt.refresh_token_expiry_days must not exceed " ++ toString Settings.maxRefreshDays
  | duplicateKey id => "Duplicate signing key id: " ++ id
  | shortSecret id =>
      "Signing key " ++ id ++ " must be at least " ++ toString Settings.minSecretOctets ++ " bytes"
  | activeKeyMissing id => "Active signing key " ++ id ++ " is not configured"
  | activeKeyRetired id => "Active signing key " ++ id ++ " is retired"
  | workFactor e => "Invalid argon2 parameters: " ++ e.message
  | emptyChannel => "audit.channel_capacity must be positive"
  | weakProductionCost =>
      "password.memory_kib must be at least " ++ toString Settings.minProductionMemoryKib ++
        " in production"

end SettingsError

namespace Settings

def checkLifetime (n limit : Int) (notPositive tooMany : SettingsError) :
    Except SettingsError Unit :=
  if n ≤ 0 then .error notPositive
  else if limit < n then .error tooMany
  else .ok ()

/-- Checks keys one after the other, given the names of those before them. -/
def checkKeys (seen : List String) : List SigningKey → Except SettingsError Unit
  | [] => .ok ()
  | k :: ks =>
      if k.id ∈ seen then .error (.duplicateKey k.id)
      else if k.secret.utf8ByteSize < minSecretOctets then .error (.shortSecret k.id)
      else checkKeys (k.id :: seen) ks

def checkActiveKey (t : TokenSettings) : Except SettingsError Unit :=
  match t.keys.find? (fun k => k.id == t.activeKeyId) with
  | none => .error (.activeKeyMissing t.activeKeyId)
  | some k => if k.retired then .error (.activeKeyRetired k.id) else .ok ()

def checkCost (p : PasswordSettings) : Except SettingsError Unit :=
  match p.cost.check with
  | .error e => .error (.workFactor e)
  | .ok _ => .ok ()

def validate (s : Settings) : Except SettingsError Unit := do
  checkLifetime s.tokens.accessMinutes maxAccessMinutes .accessMinutesNotPositive
    .accessMinutesTooMany
  checkLifetime s.tokens.refreshDays maxRefreshDays .refreshDaysNotPositive .refreshDaysTooMany
  checkKeys [] s.tokens.keys
  checkActiveKey s.tokens
  checkCost s.password
  if s.audit.channelCapacity = 0 then .error .emptyChannel else .ok ()
  if s.environment = .prod ∧ s.password.memoryKib < minProductionMemoryKib then
    .error .weakProductionCost
  else .ok ()

def allowsShortPasswordsInProduction (s : Settings) : Bool :=
  s.environment == .prod && s.password.policy.minLength < 8

end Settings
end SessionAuth
