import SessionAuth.Decimal.Binary64
import SessionAuth.Text.Split

/-!
# Plain numbers

Numbers as people write them: a sign that may be left out, decimal digits with as many zeros in
front as one likes, and for numbers that need not be whole a point and an exponent.
-/

namespace SessionAuth
namespace Decimal

/-- The sign in front of a number, and what follows it.  The flag tells whether it is a minus. -/
def splitSign (cs : List Char) : Bool × List Char :=
  match cs with
  | '-' :: rest => (true, rest)
  | '+' :: rest => (false, rest)
  | _ => (false, cs)

def natural? (cs : List Char) : Option Nat :=
  if cs.isEmpty ∨ !cs.all Char.isDigit then none else some (Text.digitsValue cs)

def whole? (cs : List Char) : Option Int := do
  let (negative, digits) := splitSign cs
  let n : Int := (← natural? digits)
  return if negative then -n else n

def smallLetters (cs : List Char) : String :=
  String.ofList (cs.map Char.toLower)

namespace Binary64

/-- A finite number without its sign: digits before or after a point, and then an exponent or
none. -/
def unsigned? (negative : Bool) (cs : List Char) : Option Binary64 := do
  let isMark (c : Char) : Bool := c == 'e' || c == 'E'
  let exponent ←
    match cs.dropWhile (fun c => !isMark c) with
    | [] => some 0
    | _ :: rest => whole? rest
  let mantissa := cs.takeWhile (fun c => !isMark c)
  let before := mantissa.takeWhile Char.isDigit
  let after := mantissa.dropWhile Char.isDigit
  let fraction := after.drop 1
  if after.isEmpty ∨ after.head? = some '.' then
    let digits ← natural? (before ++ fraction)
    return ofDecimal negative digits (exponent - fraction.length)
  else none

def ofText? (cs : List Char) : Option Binary64 :=
  let (negative, rest) := splitSign cs
  let word := smallLetters rest
  if word = "inf" ∨ word = "infinity" then some (.infinity negative)
  else if word = "nan" then some .nan
  else unsigned? negative rest

end Binary64

end Decimal
end SessionAuth
