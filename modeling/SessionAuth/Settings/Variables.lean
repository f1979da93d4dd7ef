import SessionAuth.Decimal.Plain
import SessionAuth.Encoding.Ranges
import SessionAuth.Settings.Tree

/-!
# Variables

Settings in the variables of a process.  A variable belongs to the service if its name begins
with the name of the service and two underscores.  In the rest of its name two underscores stand
between the names on the path of a setting.  Capitals and small letters are the same.
-/

namespace SessionAuth
namespace Settings

open Decimal

abbrev Variables := List (String × String)

namespace Variables

/-- Gives a variable its value, unless it has one. -/
def define (name value : String) (vs : Variables) : Variables :=
  match vs.lookup name with
  | some _ => vs
  | none => vs ++ [(name, value)]

/-- The tree of a value: a truth value, an integer of 64 bits with a sign, a floating-point
number, or else the value itself. -/
def scalar (s : String) : Tree :=
  let word := Text.lowercase s
  if word = "true" then .bool true
  else if word = "false" then .bool false
  else
    match (whole? s.toList).bind Encoding.IntRange.int64.check? with
    | some i => .int i
    | none =>
        match Binary64.ofText? s.toList with
        | some x => .float x
        | none => .text s

def dotted : List Char → List Char
  | '_' :: '_' :: cs => '.' :: dotted cs
  | c :: cs => c :: dotted cs
  | [] => []

def after? : List Char → List Char → Option (List Char)
  | [], cs => some cs
  | a :: as, c :: cs => if a = c then after? as cs else none
  | _ :: _, [] => none

def pathOf? (service name : String) : Option String :=
  let start := Text.lowercase (service ++ "__")
  (after? start.toList (Text.lowercase name).toList).map (fun rest => String.ofList (dotted rest))

def entries (service : String) (vs : Variables) : List (String × Tree) :=
  vs.filterMap (fun v => (pathOf? service v.1).map (fun path => (path, scalar v.2)))

end Variables

end Settings
end SessionAuth
