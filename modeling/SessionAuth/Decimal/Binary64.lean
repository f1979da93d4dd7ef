/-!
# Binary numbers of 64 bits

The floating-point numbers of IEEE 754 in double precision, as exact numbers: a sign and a whole
number of units, each a power of two.  A quotient is rounded to the nearest of them, and of two
that are equally near to the even one.
-/

namespace SessionAuth
namespace Decimal

inductive Binary64 where
  | nan
  | infinity (negative : Bool)
  | finite (negative : Bool) (units : Nat) (scale : Int)
deriving DecidableEq, Repr

def roundToEven (n d : Nat) : Nat :=
  let q := n / d
  let r := n % d
  if 2 * r < d then q
  else if d < 2 * r then q + 1
  else q + q % 2

def scaleDown (n d : Nat) (scale : Int) : Nat × Nat :=
  if 0 ≤ scale then (n, d * Nat.pow 2 scale.toNat) else (n * Nat.pow 2 (-scale).toNat, d)

namespace Binary64

def minScale : Int := -1074

def maxScale : Int := 971

def minUnits : Nat := 4503599627370496

def scaleOf (n d : Nat) : Int :=
  let guess : Int := (Nat.log2 n : Int) - Nat.log2 d - 52
  let (a, b) := scaleDown n d guess
  max minScale (if a / b < minUnits then guess - 1 else guess)

def ofUnits (negative : Bool) (units : Nat) (scale : Int) : Binary64 :=
  let (units, scale) := if units = 2 * minUnits then (minUnits, scale + 1) else (units, scale)
  if maxScale < scale then .infinity negative else .finite negative units scale

def nearest (negative : Bool) (n d : Nat) : Binary64 :=
  if n = 0 then .finite negative 0 minScale
  else
    let scale := scaleOf n d
    let (a, b) := scaleDown n d scale
    ofUnits negative (roundToEven a b) scale

/-- The number nearest to some decimal digits times a power of ten.  Powers beyond all bounds are
settled without computing them. -/
def ofDecimal (negative : Bool) (digits : Nat) (exponent : Int) : Binary64 :=
  let magnitude := exponent + Nat.log2 digits / 3
  if digits = 0 then .finite negative 0 minScale
  else if 400 < exponent ∧ 400 < magnitude then .infinity negative
  else if magnitude < -800 then .finite negative 0 minScale
  else if 0 ≤ exponent then nearest negative (digits * Nat.pow 10 exponent.toNat) 1
  else nearest negative digits (Nat.pow 10 (-exponent).toNat)

def quotient (units : Nat) (scale : Int) : Nat × Nat :=
  if 0 ≤ scale then (units * Nat.pow 2 scale.toNat, 1) else (units, Nat.pow 2 (-scale).toNat)

def isZero : Binary64 → Bool
  | finite _ units _ => units == 0
  | _ => false

def round? : Binary64 → Option Int
  | nan => some 0
  | infinity _ => none
  | finite negative units scale =>
      let (n, d) := quotient units scale
      let magnitude : Int := ((2 * n + d) / (2 * d) : Nat)
      some (if negative then -magnitude else magnitude)

def clamp (low high : Int) (x : Binary64) : Int :=
  match x with
  | infinity true => low
  | infinity false => high
  | x => max low (min high (x.round?.getD 0))

end Binary64

end Decimal
end SessionAuth
