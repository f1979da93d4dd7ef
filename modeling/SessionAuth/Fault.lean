import SessionAuth.Crypto.Argon2
import SessionAuth.Uuid

/-!
# Faults

The reasons for which the service itself cannot answer a request.  Every part that may fail has
its own causes, and each cause its own wording.
-/

namespace SessionAuth

inductive AddressError where
  | emptyHost
  | invalidDomainCharacter
  | invalidInternationalName
  | invalidPort
  | invalidIpv4
  | invalidIpv6
  | relativeWithoutBase
  | overflow
deriving DecidableEq, Repr

namespace AddressError

def message : AddressError → String
  | emptyHost => "empty host"
  | invalidDomainCharacter => "invalid domain character"
  | invalidInternationalName => "invalid international domain name"
  | invalidPort => "invalid port number"
  | invalidIpv4 => "invalid IPv4 address"
  | invalidIpv6 => "invalid IPv6 address"
  | relativeWithoutBase => "relative URL without a base"
  | overflow => "URLs more than 4 GB are not supported"

end AddressError

inductive StoreError where
  | hashAlreadyStored
  | familyAlreadyExists (family : FamilyId)
  | successorInOtherFamily (found expected : FamilyId)
  | subjectNotFound (subject : SubjectId)
  | poolClosed
  | rowNotFound
  | migrationMissing (version : Nat)
  | address (e : AddressError)
  | external (text : String)
  | unhealthy (e : StoreError)
deriving DecidableEq

namespace StoreError

def message : StoreError → String
  | hashAlreadyStored => "Refresh credential hash already stored"
  | familyAlreadyExists family => "Refresh family " ++ family.text ++ " already exists"
  | successorInOtherFamily found expected =>
      "Successor belongs to family " ++ found.text ++ ", expected " ++ expected.text
  | subjectNotFound subject => "Subject " ++ subject.text ++ " not found"
  | poolClosed => "attempted to acquire a connection on a closed pool"
  | rowNotFound => "no rows returned by a query that expected to return at least one row"
  | migrationMissing version =>
      "migration " ++ toString version ++
        " was previously applied but is missing in the resolved migrations"
  | address e => "error with configuration: " ++ e.message
  | external text => text
  | unhealthy e => "Database health check failed: " ++ e.message

end StoreError

inductive SigningKeyError where
  | duplicate (keyId : String)
  | activeRetired (keyId : String)
  | activeMissing (keyId : String)
  | external (text : String)
deriving DecidableEq, Repr

namespace SigningKeyError

def message : SigningKeyError → String
  | duplicate keyId => "Duplicate signing key id: " ++ keyId
  | activeRetired keyId => "Active signing key " ++ keyId ++ " is retired"
  | activeMissing keyId => "Active signing key " ++ keyId ++ " is missing"
  | external text => text

end SigningKeyError

inductive LifetimeSetting where
  | accessMinutes
  | refreshDays
deriving DecidableEq, Repr

namespace LifetimeSetting

def path : LifetimeSetting → String
  | accessMinutes => "jwt.access_token_expiry_minutes"
  | refreshDays => "jwt.refresh_token_expiry_days"

end LifetimeSetting

inductive AssemblyError where
  | workFactor (e : Crypto.Argon2.CostError)
  | lifetime (setting : LifetimeSetting)
  | databaseMissing
  | external (text : String)
deriving DecidableEq, Repr

namespace AssemblyError

def message : AssemblyError → String
  | workFactor e => "Invalid argon2 parameters: " ++ e.message
  | lifetime setting => setting.path ++ " is out of range"
  | databaseMissing => "database section is missing"
  | external text => text

end AssemblyError

inductive TokenEncodingError where
  | invalidToken
  | external (text : String)
deriving DecidableEq, Repr

namespace TokenEncodingError

def message : TokenEncodingError → String
  | invalidToken => "InvalidToken"
  | external text => text

end TokenEncodingError

inductive Fault where
  | store (e : StoreError)
  | signingKey (e : SigningKeyError)
  | tokenEncoding (e : TokenEncodingError)
  | hashing (text : String)
  | task (text : String)
  | assembly (e : AssemblyError)
deriving DecidableEq

namespace Fault

def message : Fault → String
  | store e => "Store error: " ++ e.message
  | signingKey e => "Signing key error: " ++ e.message
  | tokenEncoding e => "Token encoding error: " ++ e.message
  | hashing text => "Password hashing error: " ++ text
  | task text => "Background task failed: " ++ text
  | assembly e => "Configuration error: " ++ e.message

end Fault

end SessionAuth
