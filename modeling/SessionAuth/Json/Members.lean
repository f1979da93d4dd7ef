import SessionAuth.Encoding.Ranges
import SessionAuth.Json.Node
import SessionAuth.Json.StringBody

/-!
# Members of objects

The strict reading of objects whose members have known names and types.  A known name may not
stand twice, and members with other names are ignored, whatever they hold.
-/

namespace SessionAuth
namespace Json

namespace Node

def string? : Node → Option String
  | .string body => StringBody.decode body
  | _ => none

def bool? : Node → Option Bool
  | .bool b => some b
  | _ => none

def int64? : Node → Option Int
  | .number n => n.toInt?.bind Encoding.IntRange.int64.check?
  | _ => none

def strings? : Node → Option (List String)
  | .array items => items.mapM string?
  | _ => none

/-- A name out of a fixed choice: a string, or an object whose one member has that name and says
nothing. -/
def choice? : Node → Option String
  | .string body => StringBody.decode body
  | .object [(key, .null)] => StringBody.decode key
  | _ => none

def nullable? {α : Type} (read : Node → Option α) : Node → Option (Option α)
  | .null => some none
  | n => (read n).map some

end Node

abbrev Members := List (String × Node)

namespace Members

def ofNode? : Node → Option Members
  | .object members => members.mapM (fun m => do return (← StringBody.decode m.1, m.2))
  | _ => none

/-- The member with a name, if there is one.  The whole reading fails if there are two. -/
def single? (ms : Members) (name : String) : Option (Option Node) :=
  match ms.filter (fun m => m.1 == name) with
  | [] => some none
  | [m] => some (some m.2)
  | _ => none

def required? {α : Type} (ms : Members) (read : Node → Option α) (name : String) : Option α := do
  (← ms.single? name).bind read

def standing? {α : Type} (ms : Members) (standard : α) (read : Node → Option α) (name : String) :
    Option α := do
  match ← ms.single? name with
  | none => some standard
  | some n => read n

def optional? {α : Type} (ms : Members) (read : Node → Option α) (name : String) :
    Option (Option α) :=
  ms.standing? none (Node.nullable? read) name

end Members

end Json
end SessionAuth
