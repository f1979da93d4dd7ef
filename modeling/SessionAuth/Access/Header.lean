import SessionAuth.Access.EmbeddedKey
import SessionAuth.Json.Reader
import SessionAuth.Json.Value

/-!
# Headers of access tokens

The first part of a token names the algorithm and the key of its signature.
-/

namespace SessionAuth
namespace Access

open Json

structure Header where
  algorithm : Algorithm
  keyId : Option String
deriving DecidableEq, Repr

namespace Header

def names : List String :=
  ["typ", "alg", "cty", "jku", "jwk", "kid", "x5u", "x5c", "x5t", "x5t#S256"]

def algorithm? (n : Node) : Option Algorithm := do
  Algorithm.ofName? (← n.choice?)

def ofMembers? (ms : Members) : Option Header := do
  let _ ← ms.optional? Node.string? "typ"
  let algorithm ← ms.required? algorithm? "alg"
  let _ ← ms.optional? Node.string? "cty"
  let _ ← ms.optional? Node.string? "jku"
  let _ ← ms.optional? EmbeddedKey.check? "jwk"
  let keyId ← ms.optional? Node.string? "kid"
  let _ ← ms.optional? Node.string? "x5u"
  let _ ← ms.optional? Node.strings? "x5c"
  let _ ← ms.optional? Node.string? "x5t"
  let _ ← ms.optional? Node.string? "x5t#S256"
  return ⟨algorithm, keyId⟩

/-- The header that a document denotes: an object, or an array with a value for every name. -/
def ofNode? : Node → Option Header
  | .array items => if items.length = names.length then ofMembers? (names.zip items) else none
  | n => do ofMembers? (← Members.ofNode? n)

def ofOctets? (bs : List UInt8) : Option Header := do
  ofNode? (← Node.ofOctets? bs)

def signedWith (keyId : String) : JsonValue :=
  .object
    [("typ", .string "JWT"), ("alg", .string Algorithm.hs256.name), ("kid", .string keyId)]

end Header

end Access
end SessionAuth
