import SessionAuth.Access.Claims
import SessionAuth.Access.Compact
import SessionAuth.Access.Header
import SessionAuth.Failure
import SessionAuth.Halt
import SessionAuth.Refresh.Record
import SessionAuth.Settings.Basic

/-!
# The issuer of credentials

An issuer signs access tokens with its active key, verifies those signed with any key of its
ring, and makes the records of refresh credentials.
-/

namespace SessionAuth
namespace Access

open Time

structure Issuer where
  keys : List SigningKey
  activeKeyId : String
  name : String
  accessLifetime : Span
  refreshLifetime : Span
deriving DecidableEq

structure Credential where
  token : String
  keyId : String
  expiresAt : Instant
deriving DecidableEq

structure Verified where
  subject : SubjectId
  admin : Bool
  family : Option FamilyId
  keyId : String
  tokenId : String
  expiresAt : Instant
deriving DecidableEq

/-- Why a token is not accepted: it cannot be read as one of ours, it is one of ours but too old,
or it is refused on closer examination. -/
inductive TokenRejection where
  | unreadable
  | expired
  | refused
deriving DecidableEq, Repr

namespace TokenRejection

def failure : TokenRejection → Failure
  | unreadable => .invalidCredential
  | expired => .expired
  | refused => .invalidCredential

end TokenRejection

namespace Issuer

/-! # Assembly -/

/-- The first name that stands twice in a list of keys, given the names before them. -/
def duplicate? (seen : List String) : List SigningKey → Option String
  | [] => none
  | k :: ks => if k.id ∈ seen then some k.id else duplicate? (k.id :: seen) ks

def findKey? (keys : List SigningKey) (id : String) : Option SigningKey :=
  keys.find? (fun k => k.id == id)

/-- Accepts a ring of keys with distinct names, of which the active one is there and signs. -/
def checkRing (t : TokenSettings) : Except SigningKeyError Unit :=
  match duplicate? [] t.keys with
  | some id => .error (.duplicate id)
  | none =>
      match findKey? t.keys t.activeKeyId with
      | none => .error (.activeMissing t.activeKeyId)
      | some k => if k.retired then .error (.activeRetired t.activeKeyId) else .ok ()

def lifetime (now : Instant) (setting : LifetimeSetting) (d : Option Span) :
    Except AssemblyError Span :=
  match d with
  | none => .error (.lifetime setting)
  | some d =>
      if 0 < d.nanos ∧ (now.add? d).isSome then .ok d else .error (.lifetime setting)

def assemble (now : Instant) (t : TokenSettings) : Except Fault Issuer := do
  (checkRing t).mapError Fault.signingKey
  let access ← (lifetime now .accessMinutes (Span.ofMinutes? t.accessMinutes)).mapError
    Fault.assembly
  let refresh ← (lifetime now .refreshDays (Span.ofDays? t.refreshDays)).mapError Fault.assembly
  return ⟨t.keys, t.activeKeyId, t.issuer, access, refresh⟩

/-! # Issuing -/

def claims (i : Issuer) (now expires : Instant) (tokenId : Id .accessToken) (subject : SubjectId)
    (admin : Bool) (family : Option FamilyId) : Claims :=
  ⟨subject.text, i.name, admin, family.map Id.text, expires.seconds, now.seconds, tokenId.text⟩

def issueAccess (i : Issuer) (now : Instant) (tokenId : Id .accessToken) (subject : SubjectId)
    (admin : Bool) (family : Option FamilyId) : Except Halt Credential :=
  match findKey? i.keys i.activeKeyId with
  | none => .error (.fault (.signingKey (.activeMissing i.activeKeyId)))
  | some key =>
      match now.add? i.accessLifetime with
      | none => .error (.overflow .accessExpiry)
      | some expires =>
          let header := (Header.signedWith i.activeKeyId).write
          let payload := (i.claims now expires tokenId subject admin family).toJson.write
          .ok ⟨String.ofList (Compact.sign key.secret header payload), i.activeKeyId, expires⟩

def issueRefresh (i : Issuer) (now : Instant) (id : RecordId) (secret : Refresh.Secret)
    (subject : SubjectId) (family : FamilyId) (generation : Int) : Refresh.Record :=
  Refresh.Record.issue now id subject family generation secret i.refreshLifetime

def accessSeconds (i : Issuer) : Int :=
  i.accessLifetime.seconds

/-! # Verifying -/

def readClaims? (keyId : String) (c : Claims) : Option Verified := do
  let subject ← Id.parse? c.subject
  let family ← match c.family with
    | none => some none
    | some f => (Id.parse? f).map some
  let expiresAt ← Instant.ofSeconds? c.expires
  return ⟨subject, c.admin, family, keyId, c.tokenId, expiresAt⟩

/-- Examines the payload of a token with a valid signature at a second of the clock.  Age comes
before everything else. -/
def examine (i : Issuer) (now : Int) (keyId : String) (payload : Option Payload) :
    Except TokenRejection Verified :=
  match payload with
  | none => .error .refused
  | some p =>
      if p.claims.expires < 0 then .error .refused
      else if p.claims.expires < now then .error .expired
      else if p.claims.issuer ≠ i.name ∨ p.restricted then .error .refused
      else
        match readClaims? keyId p.claims with
        | none => .error .unreadable
        | some v => .ok v

/-- The key that the header of a token names, if it is in the ring and the token is to be
verified with it. -/
def keyOf? (i : Issuer) (header : List Char) : Option SigningKey := do
  let h ← Header.ofOctets? (← Encoding.Base64.decode .urlSafe header)
  if h.algorithm = .hs256 then findKey? i.keys (← h.keyId) else none

def verify (i : Issuer) (now : Int) (token : String) : Except TokenRejection Verified :=
  match Compact.split? token.toList with
  | none => .error .unreadable
  | some (header, payload, signature) =>
      match i.keyOf? header with
      | none => .error .unreadable
      | some key =>
          if signature = Compact.signature key.secret header payload then
            i.examine now key.id ((Encoding.Base64.decode .urlSafe payload).bind Payload.ofOctets?)
          else .error .refused

end Issuer

end Access
end SessionAuth
