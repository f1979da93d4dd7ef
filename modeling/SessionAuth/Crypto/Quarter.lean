/-!
# Quarter rounds

The step that BLAKE2b and Argon2 share: four of the sixteen words of a state are mixed at a time,
first along the columns of the four-by-four square that they form, and then along its diagonals.
-/

namespace SessionAuth
namespace Crypto

structure Quarter where
  a : UInt64
  b : UInt64
  c : UInt64
  d : UInt64
deriving DecidableEq, Repr

def rotateRight (x n : UInt64) : UInt64 :=
  (x >>> n) ||| (x <<< (64 - n))

namespace Quarter

/-- Four additions, each followed by an exclusive or and a rotation.  The additions into the
first word may differ from the addition into the third. -/
@[inline] def mix (first second other : UInt64 → UInt64 → UInt64) (q : Quarter) : Quarter :=
  let a := first q.a q.b
  let d := rotateRight (q.d ^^^ a) 32
  let c := other q.c d
  let b := rotateRight (q.b ^^^ c) 24
  let a := second a b
  let d := rotateRight (d ^^^ a) 16
  let c := other c d
  let b := rotateRight (b ^^^ c) 63
  ⟨a, b, c, d⟩

/-- The place of a word in the square.  Places are counted from the start again after the last. -/
def place (n : Nat) : Fin 16 :=
  Fin.ofNat 16 n

def places : List (Fin 16 × Fin 16 × Fin 16 × Fin 16) :=
  [(0, 4, 8, 12), (1, 5, 9, 13), (2, 6, 10, 14), (3, 7, 11, 15),
   (0, 5, 10, 15), (1, 6, 11, 12), (2, 7, 8, 13), (3, 4, 9, 14)]

@[inline] def mixAt {n : Nat} (first second other : UInt64 → UInt64 → UInt64)
    (v : Vector UInt64 n) (i j k l : Fin n) : Vector UInt64 n :=
  let q := mix first second other ⟨v[i], v[j], v[k], v[l]⟩
  (((v.set i q.a).set j q.b).set k q.c).set l q.d

end Quarter

end Crypto
end SessionAuth
