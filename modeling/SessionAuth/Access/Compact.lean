import SessionAuth.Crypto.Hmac
import SessionAuth.Encoding.Base64
import SessionAuth.Json.Value

/-!
# The compact form of tokens

A token is the header, the payload and the signature, each in base64 and with dots between.
-/

namespace SessionAuth
namespace Access
namespace Compact

open Encoding

def splitLast? (cs : List Char) : Option (List Char × List Char) :=
  let r := cs.reverse
  match r.dropWhile (· != '.') with
  | [] => none
  | _ :: before => some (before.reverse, (r.takeWhile (· != '.')).reverse)

def split? (cs : List Char) : Option (List Char × List Char × List Char) := do
  let (signed, signature) ← splitLast? cs
  let (header, payload) ← splitLast? signed
  return (header, payload, signature)

def octets (cs : List Char) : List UInt8 :=
  (String.ofList cs).toUTF8.toList

/-- The header and the payload with a dot between, which the signature covers. -/
def signedPart (header payload : List Char) : List Char :=
  header ++ '.' :: payload

def signature (secret : String) (header payload : List Char) : List Char :=
  Base64.encode .urlSafe
    (Crypto.Hmac.code secret.toUTF8.toList (octets (signedPart header payload)))

def sign (secret : String) (header payload : List Char) : List Char :=
  let h := Base64.encode .urlSafe (octets header)
  let p := Base64.encode .urlSafe (octets payload)
  signedPart (signedPart h p) (signature secret h p)

def document? (cs : List Char) : Option JsonValue := do
  JsonValue.parse? (← String.fromUTF8? (← Base64.decode .urlSafe cs).toByteArray)

/-- The header and the payload of a token as documents.  Nothing is verified. -/
def inspect? (token : String) : Option (JsonValue × JsonValue) := do
  let (header, payload, _) ← split? token.toList
  return (← document? header, ← document? payload)

end Compact
end Access
end SessionAuth
