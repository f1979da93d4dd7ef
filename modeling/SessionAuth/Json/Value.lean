import SessionAuth.Json.Reader

/-!
# Values of JSON

A document all of whose strings are texts, and the compact way to write it.
-/

namespace SessionAuth

/-- A value of JSON.  The members of an object keep their order. -/
inductive JsonValue where
  | null
  | bool (b : Bool)
  | number (n : Json.Numeral)
  | string (s : String)
  | array (items : List JsonValue)
  | object (members : List (String × JsonValue))
deriving Repr

namespace JsonValue

def int (n : Int) : JsonValue :=
  .number (.ofInt n)

def ofOption {α : Type} (f : α → JsonValue) : Option α → JsonValue
  | none => .null
  | some a => f a

def optionalString (s : Option String) : JsonValue :=
  ofOption .string s

/-- The value of a member of an object.  Of members with the same name the last one counts. -/
def member? (v : JsonValue) (key : String) : Option JsonValue :=
  match v with
  | .object members => members.reverse.lookup key
  | _ => none

def asString? : JsonValue → Option String
  | .string s => some s
  | _ => none

def asBool? : JsonValue → Option Bool
  | .bool b => some b
  | _ => none

def asInt? : JsonValue → Option Int
  | .number n => n.toInt?
  | _ => none

def asArray? : JsonValue → Option (List JsonValue)
  | .array items => some items
  | _ => none

@[simp] theorem asInt?_int (n : Int) : (int n).asInt? = some n :=
  Json.Numeral.toInt?_ofInt n

mutual

def ofNode? : Json.Node → Option JsonValue
  | .null => some .null
  | .bool b => some (.bool b)
  | .number n => some (.number n)
  | .string body => (Json.StringBody.decode body).map .string
  | .array items => (ofNodes? items).map .array
  | .object members => (ofMembers? members).map .object

def ofNodes? : List Json.Node → Option (List JsonValue)
  | [] => some []
  | n :: ns => do return (← ofNode? n) :: (← ofNodes? ns)

def ofMembers? : List (List UInt8 × Json.Node) → Option (List (String × JsonValue))
  | [] => some []
  | (key, n) :: ms => do
      return (← Json.StringBody.decode key, ← ofNode? n) :: (← ofMembers? ms)

end

def parse? (s : String) : Option JsonValue := do
  ofNode? (← Json.Node.ofOctets? s.toUTF8.toList)

/-! # Writing -/

def quoted (s : String) : List Char :=
  '"' :: (Json.StringBody.encode s ++ ['"'])

/-- A number.  An integer has its digits alone. -/
def writeNumeral (n : Json.Numeral) : List Char :=
  (if n.negative then ['-'] else []) ++ (toString n.digits).toList ++
    (if n.integral then [] else 'e' :: (toString n.exponent).toList)

mutual

def write : JsonValue → List Char
  | .null => "null".toList
  | .bool true => "true".toList
  | .bool false => "false".toList
  | .number n => writeNumeral n
  | .string s => quoted s
  | .array items => '[' :: (writeItems items ++ [']'])
  | .object members => '\x7b' :: (writeMembers members ++ ['\x7d'])

def writeItems : List JsonValue → List Char
  | [] => []
  | [v] => write v
  | v :: vs => write v ++ ',' :: writeItems vs

def writeMembers : List (String × JsonValue) → List Char
  | [] => []
  | [(key, v)] => quoted key ++ ':' :: write v
  | (key, v) :: ms => quoted key ++ ':' :: (write v ++ ',' :: writeMembers ms)

end

def render (v : JsonValue) : String :=
  String.ofList v.write

end JsonValue
end SessionAuth
