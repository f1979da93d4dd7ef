import SessionAuth.Decimal.Stepwise
import SessionAuth.Json.Value
import SessionAuth.Json.Whole
import SessionAuth.Settings.Tree

/-!
# Settings in JSON

A document of JSON as a source of settings.  Its root is an object.  Of members with the same
name the last one counts, and null stands for an empty setting.
-/

namespace SessionAuth
namespace Settings
namespace JsonSource

open Decimal

/-- The tree of a number: an integer of 64 bits with a sign, or a floating-point number. -/
def number? (n : Json.Numeral) : Option Tree :=
  match n.toInt?.bind Encoding.IntRange.int64.check? with
  | some i => some (.int i)
  | none => (Binary64.stepwise? n.negative n.digits n.exponent).map .float

mutual

def tree? (depth : Nat) : JsonValue → Option Tree
  | .null => some .empty
  | .bool b => some (.bool b)
  | .number n => number? n
  | .string s => some (.text s)
  | .array items => if depth = 0 then none else (trees? (depth - 1) items).map .list
  | .object members => if depth = 0 then none else (entries? (depth - 1) [] members).map .table

def trees? (depth : Nat) : List JsonValue → Option (List Tree)
  | [] => some []
  | v :: vs => do return (← tree? depth v) :: (← trees? depth vs)

def entries? (depth : Nat) (before : List (String × Tree)) :
    List (String × JsonValue) → Option (List (String × Tree))
  | [] => some before
  | (name, v) :: ms => do entries? depth (Tree.setEntry name (← tree? depth v) before) ms

end

def parse? (s : String) : Option (List (String × Tree)) := do
  match ← tree? Json.Node.maxDepth (← JsonValue.parse? s) with
  | .table entries => some entries
  | _ => none

end JsonSource
end Settings
end SessionAuth
