import SessionAuth.Json.Members
import SessionAuth.Json.Reader
import SessionAuth.Json.Value
import SessionAuth.Json.Whole

/-!
# Claims of access tokens

The second part of a token says for whom it was issued, by whom and for how long.
-/

namespace SessionAuth
namespace Access

open Json

/-- The claims of a token.  Instants are whole seconds since the start of 1970. -/
structure Claims where
  subject : String
  issuer : String
  admin : Bool
  family : Option String
  expires : Int
  issuedAt : Int
  tokenId : String
deriving DecidableEq, Repr

namespace Claims

def toJson (c : Claims) : JsonValue :=
  .object
    ([("sub", .string c.subject), ("iss", .string c.issuer), ("adm", .bool c.admin)] ++
      (c.family.map (fun f => ("fam", JsonValue.string f))).toList ++
      [("exp", .int c.expires), ("iat", .int c.issuedAt), ("jti", .string c.tokenId)])

def ofMembers? (ms : Members) : Option Claims := do
  let subject ← ms.required? Node.string? "sub"
  let issuer ← ms.required? Node.string? "iss"
  let admin ← ms.standing? false Node.bool? "adm"
  let family ← ms.optional? Node.string? "fam"
  let expires ← ms.required? Node.int64? "exp"
  let issuedAt ← ms.required? Node.int64? "iat"
  let tokenId ← ms.required? Node.string? "jti"
  return ⟨subject, issuer, admin, family, expires, issuedAt, tokenId⟩

/-- Tells whether a member restricts the audience of a token: it is a text or a list of texts.
Anything else says nothing. -/
def restrictsAudience (n : Node) : Bool :=
  n.string?.isSome || n.strings?.isSome

/-- Tells whether the audience of a token can be read or passed over: it is read as a whole, and
the reader must get to its end. -/
def audienceReadable (n : Node) : Bool :=
  n.stopInDocument? != some .within

/-- Tells whether the time before which a token is not valid can be read or passed over: a list or
an object that is not empty cannot. -/
def notBeforeReadable : Node → Bool
  | .array items => items.isEmpty
  | .object members => members.isEmpty
  | n => n.stopInDocument? != some .within

end Claims

/-- What the payload of a token says: its claims, and whether it is meant for some audience. -/
structure Payload where
  claims : Claims
  restricted : Bool
deriving DecidableEq, Repr

namespace Payload

def ofOctets? (bs : List UInt8) : Option Payload := do
  let ms ← Members.ofNode? (← Node.ofOctets? bs)
  let claims ← Claims.ofMembers? ms
  let notBefore ← ms.single? "nbf"
  let audience ← ms.single? "aud"
  if notBefore.all Claims.notBeforeReadable ∧ audience.all Claims.audienceReadable then
    return ⟨claims, audience.any Claims.restrictsAudience⟩
  else none

end Payload

end Access
end SessionAuth
