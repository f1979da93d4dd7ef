import SessionAuth.Crypto.Sha256

/-!
# HMAC with SHA-256

The keyed hash of RFC 2104 over blocks of 64 octets.
-/

namespace SessionAuth
namespace Crypto
namespace Hmac

/-- The key brought to the length of a block: a longer key is hashed first, and zeros follow. -/
def blockKey (key : List UInt8) : List UInt8 :=
  let k := if key.length ≤ 64 then key else Sha256.digest key
  k ++ List.replicate (64 - k.length) 0

def code (key message : List UInt8) : List UInt8 :=
  let k := blockKey key
  Sha256.digest (k.map (· ^^^ 0x5c) ++ Sha256.digest (k.map (· ^^^ 0x36) ++ message))

@[simp] theorem length_code (key message : List UInt8) : (code key message).length = 32 := by
  simp [code]

end Hmac
end Crypto
end SessionAuth
