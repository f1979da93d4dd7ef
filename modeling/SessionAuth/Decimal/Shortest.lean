import SessionAuth.Decimal.Binary64

/-!
# Shortest decimal text

A binary number is written with the fewest decimal digits that read back as the same number, and
of those with the ones nearest to it.  Of two that are equally near the greater is written.  The
text is positional at every magnitude.
-/

namespace SessionAuth
namespace Decimal

def leadingExponent (n d : Nat) : Int :=
  if d ≤ n then ((toString (n / d)).length : Int) - 1
  else -((((List.range 400).find? (fun j => d ≤ n * Nat.pow 10 (j + 1))).getD 400 : Nat) : Int) - 1

def inUnits (n d : Nat) (exponent : Int) : Nat × Nat × Nat :=
  let (a, b) :=
    if 0 ≤ exponent then (n, d * Nat.pow 10 exponent.toNat)
    else (n * Nat.pow 10 (-exponent).toNat, d)
  (a / b, a % b, b)

def decimalWith? (x : Binary64) (n d : Nat) (digits : Nat) : Option (Nat × Int) :=
  let exponent := leadingExponent n d + 1 - digits
  let (whole, rest, unit) := inUnits n d exponent
  let readsBack (k : Nat) : Bool := decide (Binary64.ofDecimal false k exponent = x)
  let (near, far) := if 2 * rest < unit then (whole, whole + 1) else (whole + 1, whole)
  if readsBack near then some (near, exponent)
  else if readsBack far then some (far, exponent)
  else none

def dropZero (p : Nat × Int) : Nat × Int :=
  if p.1 % 10 = 0 then (p.1 / 10, p.2 + 1) else p

def shortest (x : Binary64) (n d : Nat) : Nat × Int :=
  dropZero (((List.range 17).findSome? (fun k => decimalWith? x n d (k + 1))).getD (0, 0))

def positional (digits : Nat) (exponent : Int) : String :=
  let text := toString digits
  if 0 ≤ exponent then text ++ String.ofList (List.replicate exponent.toNat '0')
  else
    let places := (-exponent).toNat
    let padded := List.replicate (places + 1 - text.length) '0' ++ text.toList
    String.ofList (padded.take (padded.length - places)) ++ "." ++
      String.ofList (padded.drop (padded.length - places))

namespace Binary64

def text : Binary64 → String
  | nan => "NaN"
  | infinity negative => if negative then "-inf" else "inf"
  | finite negative units scale =>
      let (n, d) := quotient units scale
      (if negative then "-" else "") ++
        (if units = 0 then "0"
          else
            let (digits, exponent) := shortest (.finite false units scale) n d
            positional digits exponent)

def pointedText (x : Binary64) : String :=
  match x with
  | finite _ _ _ => if x.text.toList.contains '.' then x.text else x.text ++ ".0"
  | _ => x.text

end Binary64

end Decimal
end SessionAuth
