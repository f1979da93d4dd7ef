/-!
# Words as octets

Fixed-width words written as lists of octets, least or most significant octet first, and read
back.
-/

namespace SessionAuth
namespace Encoding

/-- The `n` low octets of a number, the least significant one first. -/
def littleEndian : Nat → Nat → List UInt8
  | 0, _ => []
  | n + 1, x => UInt8.ofNat x :: littleEndian n (x / 256)

def bigEndian (n x : Nat) : List UInt8 :=
  (littleEndian n x).reverse

def ofLittleEndian : List UInt8 → Nat
  | [] => 0
  | b :: bs => b.toNat + 256 * ofLittleEndian bs

def ofBigEndian (bs : List UInt8) : Nat :=
  ofLittleEndian bs.reverse

@[simp] theorem length_littleEndian (n x : Nat) : (littleEndian n x).length = n := by
  induction n generalizing x with
  | zero => rfl
  | succ n ih => simp [littleEndian, ih]

@[simp] theorem length_bigEndian (n x : Nat) : (bigEndian n x).length = n := by
  simp [bigEndian]

/-- The octets of a number that fits denote that number. -/
theorem ofLittleEndian_littleEndian (n x : Nat) (h : x < Nat.pow 256 n) :
    ofLittleEndian (littleEndian n x) = x := by
  induction n generalizing x with
  | zero =>
      have hx : x = 0 := Nat.lt_one_iff.mp h
      simp [littleEndian, ofLittleEndian, hx]
  | succ n ih =>
      have hx : x / 256 < Nat.pow 256 n :=
        Nat.div_lt_of_lt_mul (Nat.mul_comm 256 (Nat.pow 256 n) ▸ h)
      simp only [littleEndian, ofLittleEndian, ih _ hx, UInt8.toNat_ofNat']
      omega

def partsOf (n : Nat) : Nat → List UInt8 → List (List UInt8)
  | 0, _ => []
  | k + 1, bs => bs.take n :: partsOf n k (bs.drop n)

def parts (n : Nat) (bs : List UInt8) : List (List UInt8) :=
  partsOf n (bs.length / n) bs

end Encoding
end SessionAuth
