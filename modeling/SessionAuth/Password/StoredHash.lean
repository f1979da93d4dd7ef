import SessionAuth.Encoding.Base64
import SessionAuth.Encoding.Ranges
import SessionAuth.Text.Split

/-!
# Stored password hashes

The text in which the hash of a password is kept: the name of the algorithm, its version, its
parameters, the salt and the hash itself, each after a dollar sign.  All but the first may be
left out.
-/

namespace SessionAuth
namespace Password

open Encoding

/-- The parts of a stored hash.  The values of parameters and the salt are texts still. -/
structure StoredHash where
  algorithm : String
  version : Option Nat
  parameters : List (String × String)
  salt : Option String
  output : Option (List UInt8)
deriving DecidableEq, Repr

def decimal32? (cs : List Char) : Option Nat :=
  (Text.decimal? cs).filter (fun n => decide (n < size32))

namespace StoredHash

def isNameChar (c : Char) : Bool :=
  c.isLower || c.isDigit || c == '-'

def isValueChar (c : Char) : Bool :=
  c.isAlphanum || c == '/' || c == '+' || c == '.' || c == '-'

/-- Tells whether some characters are a name: one to 32 of them. -/
def isName (cs : List Char) : Bool :=
  !cs.isEmpty && decide (cs.length ≤ 32) && cs.all isNameChar

/-- Tells whether some characters are a value: at most 64 of them. -/
def isValue (cs : List Char) : Bool :=
  decide (cs.length ≤ 64) && cs.all isValueChar

/-- A parameter: a name and a value with one equals sign between. -/
def parameter? (cs : List Char) : Option (String × String) :=
  match Text.splitAt '=' cs with
  | [name, value] =>
      if isName name && isValue value then some (String.ofList name, String.ofList value) else none
  | _ => none

def parameters? (cs : List Char) : Option (List (String × String)) :=
  if (String.ofList cs).utf8ByteSize ≤ 127 then (Text.splitAt ',' cs).mapM parameter? else none

def takeVersion? (fields : List (List Char)) : Option (Option Nat × List (List Char)) :=
  match fields with
  | ('v' :: '=' :: digits) :: rest =>
      if digits.contains ',' then some (none, fields)
      else (decimal32? digits).map (fun v => (some v, rest))
  | _ => some (none, fields)

def takeParameters? (fields : List (List Char)) :
    Option (List (String × String) × List (List Char)) :=
  match fields with
  | field :: rest =>
      if field.contains '=' then (parameters? field).map (fun ps => (ps, rest))
      else some ([], fields)
  | [] => some ([], [])

/-- A salt: a value of four to 64 characters. -/
def salt? (cs : List Char) : Option String :=
  if 4 ≤ cs.length ∧ isValue cs then some (String.ofList cs) else none

/-- A hash: ten to 64 octets in base64. -/
def output? (cs : List Char) : Option (List UInt8) := do
  let bs ← Base64.decode .standard cs
  if 10 ≤ bs.length ∧ bs.length ≤ 64 then some bs else none

def ofFields? : List (List Char) → Option StoredHash
  | [] :: algorithm :: rest => do
      if !isName algorithm then none
      else
        let (version, rest) ← takeVersion? rest
        let (parameters, rest) ← takeParameters? rest
        match rest with
        | [] => some ⟨String.ofList algorithm, version, parameters, none, none⟩
        | [salt] => some ⟨String.ofList algorithm, version, parameters, some (← salt? salt), none⟩
        | [salt, output] =>
            some ⟨String.ofList algorithm, version, parameters, some (← salt? salt),
              some (← output? output)⟩
        | _ => none
  | _ => none

def parse? (s : String) : Option StoredHash :=
  ofFields? (Text.splitAt '$' s.toList)

def fieldText (s : String) : String :=
  "$" ++ s

def text (h : StoredHash) : String :=
  fieldText h.algorithm ++
    (match h.version with
      | none => ""
      | some v => fieldText ("v=" ++ toString v)) ++
    (if h.parameters.isEmpty then ""
      else fieldText (String.intercalate "," (h.parameters.map (fun p => p.1 ++ "=" ++ p.2)))) ++
    (match h.salt with
      | none => ""
      | some s => fieldText s) ++
    (match h.output with
      | none => ""
      | some o => fieldText (String.ofList (Base64.encode .standard o)))

end StoredHash

end Password
end SessionAuth
