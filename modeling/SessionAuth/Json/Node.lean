/-!
# Syntax trees of JSON

A text of JSON as it stands on the page: the members of an object in their order and with
repetitions, the octets between the quotes of a string before their escapes are resolved, and the
digits of a number before they are rounded.  A reader of a document can so ignore what it does
not need, whatever that part would mean.
-/

namespace SessionAuth
namespace Json

/-- A number as it is written: `digits` are those of the whole and the fractional part in a row,
and the number is their value times ten to the `exponent`. -/
structure Numeral where
  negative : Bool
  digits : Nat
  exponent : Int
  /-- Written without a fractional part and without an exponent. -/
  integral : Bool
deriving DecidableEq, Repr

namespace Numeral

def ofInt (n : Int) : Numeral :=
  ⟨decide (n < 0), n.natAbs, 0, true⟩

/-- The integer that a numeral spells out.  Minus zero is no integer. -/
def toInt? (n : Numeral) : Option Int :=
  if n.integral then
    if n.negative then (if n.digits = 0 then none else some (-(n.digits : Int)))
    else some n.digits
  else none

@[simp] theorem toInt?_ofInt (n : Int) : (ofInt n).toInt? = some n := by
  unfold ofInt toInt?
  by_cases h : n < 0
  · have nonzero : n.natAbs ≠ 0 := by omega
    have magnitude : -(n.natAbs : Int) = n := by omega
    simp only [h, decide_true, ↓reduceIte, nonzero, magnitude]
  · have magnitude : (n.natAbs : Int) = n := by omega
    simp only [h, decide_false, Bool.false_eq_true, ↓reduceIte, magnitude]

end Numeral

inductive Node where
  | null
  | bool (b : Bool)
  | number (n : Numeral)
  | string (body : List UInt8)
  | array (items : List Node)
  | object (members : List (List UInt8 × Node))
deriving Repr

end Json
end SessionAuth
