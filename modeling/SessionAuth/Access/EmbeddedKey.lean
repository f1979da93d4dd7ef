import SessionAuth.Access.Algorithm
import SessionAuth.Json.Members
import SessionAuth.Json.Whole

/-!
# Keys inside of headers

The header of a token may carry a key of its own.  Such a key is never used, but a header in
which it is ill formed is not accepted.
-/

namespace SessionAuth
namespace Access
namespace EmbeddedKey

open Json

def algorithmNames : List String :=
  Algorithm.all.map Algorithm.name ++ ["RSA1_5", "RSA-OAEP", "RSA-OAEP-256"]

def curveNames : List String :=
  ["P-256", "P-384", "P-521", "Ed25519"]

def oneOf? (names : List String) (n : Node) : Option Unit := do
  let name ← n.choice?
  if name ∈ names then some () else none

def text? (n : Node) : Option Unit :=
  n.string?.map (fun _ => ())

def texts? (n : Node) : Option Unit :=
  n.strings?.map (fun _ => ())

def common? (ms : Members) : Option Unit := do
  let _ ← ms.optional? text? "use"
  let _ ← ms.optional? texts? "key_ops"
  let _ ← ms.optional? (oneOf? algorithmNames) "alg"
  let _ ← ms.optional? text? "kid"
  let _ ← ms.optional? text? "x5u"
  let _ ← ms.optional? texts? "x5c"
  let _ ← ms.optional? text? "x5t"
  let _ ← ms.optional? text? "x5t#S256"
  return ()

/-- The parameters of a key of one type: the name of the type, and members that must be there. -/
def parameters? (ms : Members) (type : String) (members : List (String × (Node → Option Unit))) :
    Option Unit := do
  ms.required? (oneOf? [type]) "kty"
  let _ ← members.mapM (fun m => ms.required? m.2 m.1)
  return ()

def anyParameters? (ms : Members) : Option Unit :=
  parameters? ms "EC" [("crv", oneOf? curveNames), ("x", text?), ("y", text?)] <|>
    parameters? ms "RSA" [("n", text?), ("e", text?)] <|>
    parameters? ms "oct" [("k", text?)] <|>
    parameters? ms "OKP" [("crv", oneOf? curveNames), ("x", text?)]

def check? (n : Node) : Option Unit := do
  let ms ← Members.ofNode? n
  common? ms
  anyParameters? ms
  if n.stopInDocument?.isNone then some () else none

end EmbeddedKey
end Access
end SessionAuth
