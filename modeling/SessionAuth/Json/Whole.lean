import SessionAuth.Decimal.Stepwise
import SessionAuth.Json.Node
import SessionAuth.Json.StringBody

/-!
# Reading values as a whole

A member can be ignored, whatever it holds.  If it is read as a whole instead, all its strings
must be texts and all its numbers within range, and it may not be nested too deeply.
-/

namespace SessionAuth
namespace Json
namespace Node

def maxDepth : Nat := 127

def inRange (n : Numeral) : Bool :=
  (Decimal.Binary64.stepwise? n.negative n.digits n.exponent).isSome

/-- Where the reading of an array or an object stops, given where the reading of one of its values
did.  If that is the last value, the closing bracket can still be read. -/
def stopAt (last : Bool) : Stop → Stop
  | .behind => if last then .behind else .within
  | .within => .within

mutual

/-- Where the reading of a value stops that cannot be read as a whole.  The value may be so deep. -/
def stop? (depth : Nat) : Node → Option Stop
  | .null => none
  | .bool _ => none
  | .number n => if inRange n then none else some .behind
  | .string body =>
      match StringBody.read body with
      | .ok _ => none
      | .error stop => some stop
  | .array items => if depth = 0 then some .within else stopInItems? (depth - 1) items
  | .object members => if depth = 0 then some .within else stopInMembers? (depth - 1) members

def stopInItems? (depth : Nat) : List Node → Option Stop
  | [] => none
  | n :: rest =>
      match stop? depth n with
      | none => stopInItems? depth rest
      | some stop => some (stopAt rest.isEmpty stop)

/-- Where the reading of the members of an object stops.  It does not go on after a name. -/
def stopInMembers? (depth : Nat) : List (List UInt8 × Node) → Option Stop
  | [] => none
  | (key, n) :: rest =>
      match StringBody.decode key, stop? depth n with
      | none, _ => some .within
      | some _, none => stopInMembers? depth rest
      | some _, some stop => some (stopAt rest.isEmpty stop)

end

def stopInDocument? (n : Node) : Option Stop :=
  stop? (maxDepth - 1) n

end Node
end Json
end SessionAuth
