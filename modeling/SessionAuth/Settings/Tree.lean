import SessionAuth.Decimal.Binary64
import SessionAuth.Encoding.Ranges
import SessionAuth.Text.Lowercase

/-!
# Trees of settings

What files and variables say about settings, before it is known which settings there are.  Trees
from several sources are laid over each other: tables are merged name by name, and everything
else replaces what was there.  Names do not depend on case.
-/

namespace SessionAuth
namespace Settings

open Decimal

inductive Tree where
  | empty
  | bool (b : Bool)
  | int (n : Int)
  | float (x : Binary64)
  | text (s : String)
  | list (items : List Tree)
  | table (entries : List (String × Tree))

namespace Tree

def entries : Tree → List (String × Tree)
  | table es => es
  | _ => []

def items : Tree → List Tree
  | list ts => ts
  | _ => []

/-- Entries with the value of one name changed.  A name that is new comes last. -/
def setEntry (name : String) (value : Tree) : List (String × Tree) → List (String × Tree)
  | [] => [(name, value)]
  | e :: es => if e.1 = name then (name, value) :: es else e :: setEntry name value es

mutual

/-- Lays a value over an entry of a table.  What is no table becomes one. -/
def overlay (target : Tree) (name : String) : Tree → Tree
  | table incoming =>
      let key := Text.lowercase name
      let old := (target.entries.lookup key).getD (table [])
      table (setEntry key (overlayAll old incoming) target.entries)
  | value => table (setEntry (Text.lowercase name) value target.entries)

def overlayAll (target : Tree) : List (String × Tree) → Tree
  | [] => target
  | (name, value) :: rest => overlayAll (overlay target name value) rest

end

/-! # Places in a tree -/

inductive Step where
  | child (name : String)
  | item (index : Int)
deriving DecidableEq, Repr

/-- The text of a path.  A dot stands between a name and the name after it, and nowhere else. -/
def pathText : List Step → String
  | [] => ""
  | [.child name] => name
  | .child name :: .child next :: rest => name ++ "." ++ pathText (.child next :: rest)
  | .child name :: rest => name ++ pathText rest
  | .item index :: rest => "[" ++ toString index ++ "]" ++ pathText rest

/-- The place of an item.  A negative index counts from the end. -/
def position (index : Int) (length : Nat) : Nat :=
  if 0 ≤ index then index.toNat else length - index.natAbs

/-- The items with one of them changed.  Missing items before it are empty. -/
def modifyItem (index : Int) (f : Tree → Tree) (items : List Tree) : List Tree :=
  let i := position index items.length
  let items := items ++ List.replicate (i + 1 - items.length) empty
  items.set i (f ((items[i]?).getD empty))

/-- Changes the tree at a place.  Tables and lists that are missing on the way are made. -/
def modifyAt (f : Tree → Tree) : List Step → Tree → Tree
  | [], t => f t
  | .child name :: rest, t =>
      let key := Text.lowercase name
      table (setEntry key (modifyAt f rest ((t.entries.lookup key).getD empty)) t.entries)
  | .item index :: rest, t => list (modifyItem index (modifyAt f rest) t.items)

/-- Sets the value at a place: it is laid over an entry of a table, and it replaces an item of a
list. -/
def setLast (value : Tree) : Step → Tree → Tree
  | .child name, t => overlay t name value
  | .item index, t => list (modifyItem index (fun _ => value) t.items)

def isPathChar (c : Char) : Bool :=
  c.isAlphanum || c == ' ' || c == '_' || c == '-'

def index? (cs : List Char) : Option Int :=
  let cs := (cs.dropWhile (fun c => c == ' ' || c == '\t')).reverse
  let cs := (cs.dropWhile (fun c => c == ' ' || c == '\t')).reverse
  let (negative, digits) := match cs with
    | '-' :: rest => (true, rest)
    | cs => (false, cs)
  if digits.isEmpty ∨ !digits.all Char.isDigit then none
  else
    let n : Int := digits.foldl (fun n c => 10 * n + (c.toNat - 48)) 0
    (Encoding.IntRange.int64.check? n).map (fun n => if negative then -n else n)

/-- The steps after the first name of a path.  The given number bounds their count. -/
def steps? : Nat → List Char → Option (List Step)
  | 0, cs => if cs.isEmpty then some [] else none
  | _ + 1, [] => some []
  | n + 1, '.' :: cs => do
      let name := cs.takeWhile isPathChar
      if name.isEmpty then none
      else return .child (String.ofList name) :: (← steps? n (cs.dropWhile isPathChar))
  | n + 1, '[' :: cs => do
      match cs.dropWhile (· != ']') with
      | _ :: rest => return .item (← index? (cs.takeWhile (· != ']'))) :: (← steps? n rest)
      | [] => none
  | _ + 1, _ => none

/-- The steps of a path: names with dots between, and indices in brackets.  A text that is no
path is a single name. -/
def path (key : String) : List Step :=
  let cs := key.toList
  let name := cs.takeWhile isPathChar
  let steps := if name.isEmpty then none else steps? cs.length (cs.dropWhile isPathChar)
  match steps with
  | some steps => .child (String.ofList name) :: steps
  | none => [.child key]

def set (t : Tree) (key : String) (value : Tree) : Tree :=
  match (path key).getLast? with
  | some last => modifyAt (setLast value last) (path key).dropLast t
  | none => t

/-- Lays the entries of a source over a tree.  Their names are paths. -/
def setAll (t : Tree) (source : List (String × Tree)) : Tree :=
  source.foldl (fun t e => t.set e.1 e.2) t

end Tree

end Settings
end SessionAuth
