/-!
# Base64 without padding

Three octets as four characters, in the standard alphabet or in the one made for addresses.
Reading is strict: only the written form of a list of octets is accepted, so the unused bits of
the last character are zero and nothing follows.
-/

namespace SessionAuth
namespace Encoding
namespace Base64

inductive Alphabet where
  | standard
  | urlSafe
deriving DecidableEq, Repr

namespace Alphabet

def char62 : Alphabet → Char
  | standard => '+'
  | urlSafe => '-'

def char63 : Alphabet → Char
  | standard => '/'
  | urlSafe => '_'

def char (a : Alphabet) (n : Nat) : Char :=
  if n < 26 then Char.ofNat (65 + n)
  else if n < 52 then Char.ofNat (71 + n)
  else if n < 62 then Char.ofNat (n - 4)
  else if n = 62 then a.char62
  else a.char63

def value? (a : Alphabet) (c : Char) : Option Nat :=
  if 'A' ≤ c ∧ c ≤ 'Z' then some (c.toNat - 65)
  else if 'a' ≤ c ∧ c ≤ 'z' then some (c.toNat - 71)
  else if '0' ≤ c ∧ c ≤ '9' then some (c.toNat + 4)
  else if c = a.char62 then some 62
  else if c = a.char63 then some 63
  else none

theorem value?_char (a : Alphabet) (n : Nat) (h : n < 64) : a.value? (a.char n) = some n := by
  have : ∀ m : Fin 64, a.value? (a.char m.val) = some m.val := by cases a <;> decide
  exact this ⟨n, h⟩

end Alphabet

def encode (a : Alphabet) : List UInt8 → List Char
  | [] => []
  | [x] =>
      let n := x.toNat * 16
      [a.char (n / 64), a.char (n % 64)]
  | [x, y] =>
      let n := (x.toNat * 256 + y.toNat) * 4
      [a.char (n / 4096), a.char (n / 64 % 64), a.char (n % 64)]
  | x :: y :: z :: rest =>
      let n := x.toNat * 65536 + y.toNat * 256 + z.toNat
      a.char (n / 262144) :: a.char (n / 4096 % 64) :: a.char (n / 64 % 64) :: a.char (n % 64) ::
        encode a rest

/-- The octets of a text, or nothing if the text is not the written form of any. -/
def decode (a : Alphabet) : List Char → Option (List UInt8)
  | [] => some []
  | [_] => none
  | [c, d] => do
      let n := (← a.value? c) * 64 + (← a.value? d)
      if n % 16 = 0 then return [UInt8.ofNat (n / 16)] else none
  | [c, d, e] => do
      let n := (← a.value? c) * 4096 + (← a.value? d) * 64 + (← a.value? e)
      if n % 4 = 0 then return [UInt8.ofNat (n / 1024), UInt8.ofNat (n / 4)] else none
  | c :: d :: e :: f :: rest => do
      let n := (← a.value? c) * 262144 + (← a.value? d) * 4096 + (← a.value? e) * 64 +
        (← a.value? f)
      let bs ← decode a rest
      return UInt8.ofNat (n / 65536) :: UInt8.ofNat (n / 256) :: UInt8.ofNat n :: bs

@[simp] theorem encode_nil (a : Alphabet) : encode a [] = [] := rfl

@[simp] theorem decode_nil (a : Alphabet) : decode a [] = some [] := rfl

end Base64
end Encoding
end SessionAuth
