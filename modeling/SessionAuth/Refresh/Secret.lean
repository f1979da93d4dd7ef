import SessionAuth.Crypto.Sha256
import SessionAuth.Encoding.Base64
import SessionAuth.Encoding.Hex

/-!
# Refresh secrets

The secret half of a refresh credential.  The store keeps its hash alone.
-/

namespace SessionAuth
namespace Refresh

open Encoding

structure Secret where
  text : String
deriving DecidableEq

namespace Secret

def ofOctets (bs : List UInt8) : Secret :=
  ⟨String.ofList (Base64.encode .urlSafe bs)⟩

def hash (s : Secret) : String :=
  String.ofList (Hex.encode (Crypto.Sha256.digest s.text.toUTF8.toList))

end Secret

end Refresh
end SessionAuth
