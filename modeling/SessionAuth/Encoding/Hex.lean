/-!
# Hexadecimal text

Two small hexadecimal digits per octet on writing; digits of either case on reading.
-/

namespace SessionAuth
namespace Encoding
namespace Hex

def digit (n : Nat) : Char :=
  Char.ofNat (if n < 10 then 48 + n else 87 + n)

def value? (c : Char) : Option Nat :=
  if '0' ≤ c ∧ c ≤ '9' then some (c.toNat - 48)
  else if 'a' ≤ c ∧ c ≤ 'f' then some (c.toNat - 87)
  else if 'A' ≤ c ∧ c ≤ 'F' then some (c.toNat - 55)
  else none

def encode : List UInt8 → List Char
  | [] => []
  | b :: bs => digit (b.toNat / 16) :: digit (b.toNat % 16) :: encode bs

def decode : List Char → Option (List UInt8)
  | [] => some []
  | [_] => none
  | c :: d :: rest => do
      let high ← value? c
      let low ← value? d
      let bs ← decode rest
      return UInt8.ofNat (16 * high + low) :: bs

@[simp] theorem encode_nil : encode [] = [] := rfl

@[simp] theorem decode_nil : decode [] = some [] := rfl

theorem value?_digit (n : Nat) (h : n < 16) : value? (digit n) = some n := by
  have : ∀ m : Fin 16, value? (digit m.val) = some m.val := by decide
  exact this ⟨n, h⟩

@[simp] theorem length_encode (bs : List UInt8) : (encode bs).length = 2 * bs.length := by
  induction bs with
  | nil => rfl
  | cons b bs ih => simp [encode, ih]; omega

/-- Reading gives back what was written. -/
theorem decode_encode (bs : List UInt8) : decode (encode bs) = some bs := by
  induction bs with
  | nil => rfl
  | cons b bs ih =>
      have hb : b.toNat < 256 := b.toNat_lt
      have h : 16 * (b.toNat / 16) + b.toNat % 16 = b.toNat := by omega
      simp only [encode, decode, value?_digit _ (show b.toNat / 16 < 16 by omega),
        value?_digit _ (show b.toNat % 16 < 16 by omega), ih, h, Option.bind_eq_bind,
        Option.bind_some, Option.pure_def, UInt8.ofNat_toNat]

end Hex
end Encoding
end SessionAuth
