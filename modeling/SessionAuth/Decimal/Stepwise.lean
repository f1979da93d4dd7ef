import SessionAuth.Decimal.Binary64
import SessionAuth.Encoding.Ranges

/-!
# Decimals in steps

A quick way to read a decimal: its leading digits are rounded to a binary number, and that is
multiplied or divided by rounded powers of ten.  The result may differ in its last digit from the
number that is nearest to the decimal.
-/

namespace SessionAuth
namespace Decimal

/-- Digits cut at their end until they fit into 64 bits, with the exponent that makes up for the
digits that are gone.  The first number bounds how many. -/
def leadingDigits : Nat → Nat → Int → Nat × Int
  | 0, digits, exponent => (digits, exponent)
  | n + 1, digits, exponent =>
      if digits < Encoding.size64 then (digits, exponent)
      else leadingDigits n (digits / 10) (exponent + 1)

namespace Binary64

def maxPower : Nat := 308

def power (k : Nat) : Binary64 :=
  nearest false (Nat.pow 10 k) 1

def times (x y : Binary64) : Binary64 :=
  match x, y with
  | finite negative u s, finite _ v t =>
      let (a, b) := quotient u s
      let (c, d) := quotient v t
      nearest negative (a * c) (b * d)
  | x, _ => x

def dividedBy (x y : Binary64) : Binary64 :=
  match x, y with
  | finite negative u s, finite _ v t =>
      let (a, b) := quotient u s
      let (c, d) := quotient v t
      nearest negative (a * d) (b * c)
  | x, _ => x

def downBy (x : Binary64) (k : Nat) : Binary64 :=
  if k ≤ maxPower then x.dividedBy (power k)
  else if k ≤ 2 * maxPower then (x.dividedBy (power maxPower)).dividedBy (power (k - maxPower))
  else
    match x with
    | finite negative _ _ => finite negative 0 minScale
    | x => x

def upBy? (x : Binary64) (k : Nat) : Option Binary64 :=
  if x.isZero then some x
  else if maxPower < k then none
  else
    match x.times (power k) with
    | infinity _ => none
    | y => some y

def stepwise? (negative : Bool) (digits : Nat) (exponent : Int) : Option Binary64 :=
  let (digits, exponent) := leadingDigits (Nat.log2 digits) digits exponent
  let x := nearest negative digits 1
  if 0 ≤ exponent then x.upBy? exponent.toNat else some (x.downBy (-exponent).toNat)

end Binary64

end Decimal
end SessionAuth
