import SessionAuth.Json.Node
import SessionAuth.Json.StringBody

/-!
# Reading JSON

The grammar of RFC 8259 over octets.  White space may stand around a document and between its
tokens; nothing else may.
-/

namespace SessionAuth
namespace Json
namespace Reader

def skipSpace (bs : List UInt8) : List UInt8 :=
  bs.dropWhile (fun b => b == 0x20 || b == 0x09 || b == 0x0A || b == 0x0D)

def isDigit (b : UInt8) : Bool :=
  0x30 ≤ b && b ≤ 0x39

def digitsValue (bs : List UInt8) : Nat :=
  bs.foldl (fun n b => 10 * n + (b.toNat - 0x30)) 0

/-- The fractional part of a number: a point and at least one digit, or nothing at all. -/
def fraction? (bs : List UInt8) : Option (List UInt8 × List UInt8) :=
  match bs with
  | 0x2E :: rest =>
      let digits := rest.takeWhile isDigit
      if digits.isEmpty then none else some (digits, rest.dropWhile isDigit)
  | _ => some ([], bs)

def exponentDigits? (negative : Bool) (bs : List UInt8) : Option (Int × List UInt8) :=
  let digits := bs.takeWhile isDigit
  if digits.isEmpty then none
  else
    let n : Int := digitsValue digits
    some (if negative then -n else n, bs.dropWhile isDigit)

def exponent? (bs : List UInt8) : Option (Option Int × List UInt8) :=
  let signed (rest : List UInt8) :=
    match rest with
    | 0x2B :: rest => exponentDigits? false rest
    | 0x2D :: rest => exponentDigits? true rest
    | rest => exponentDigits? false rest
  match bs with
  | 0x65 :: rest => (signed rest).map (fun p => (some p.1, p.2))
  | 0x45 :: rest => (signed rest).map (fun p => (some p.1, p.2))
  | _ => some (none, bs)

/-- A number without its sign.  No zero stands in front of another digit. -/
def unsigned? (negative : Bool) (bs : List UInt8) : Option (Numeral × List UInt8) := do
  let whole := bs.takeWhile isDigit
  if whole.isEmpty ∨ (whole.head? = some 0x30 ∧ 1 < whole.length) then none
  else
    let (fraction, rest) ← fraction? (bs.dropWhile isDigit)
    let (exponent, rest) ← exponent? rest
    return (⟨negative, digitsValue (whole ++ fraction), exponent.getD 0 - fraction.length,
      fraction.isEmpty && exponent.isNone⟩, rest)

def numeral? (bs : List UInt8) : Option (Numeral × List UInt8) :=
  match bs with
  | 0x2D :: rest => unsigned? true rest
  | _ => unsigned? false bs

mutual

def value? : Nat → List UInt8 → Option (Node × List UInt8)
  | 0, _ => none
  | fuel + 1, bs =>
      match skipSpace bs with
      | 0x6E :: 0x75 :: 0x6C :: 0x6C :: rest => some (.null, rest)
      | 0x74 :: 0x72 :: 0x75 :: 0x65 :: rest => some (.bool true, rest)
      | 0x66 :: 0x61 :: 0x6C :: 0x73 :: 0x65 :: rest => some (.bool false, rest)
      | 0x22 :: rest => (StringBody.split? rest).map (fun p => (.string p.1, p.2))
      | 0x5B :: rest =>
          match skipSpace rest with
          | 0x5D :: rest => some (.array [], rest)
          | rest => (items? fuel rest).map (fun p => (.array p.1, p.2))
      | 0x7B :: rest =>
          match skipSpace rest with
          | 0x7D :: rest => some (.object [], rest)
          | rest => (members? fuel rest).map (fun p => (.object p.1, p.2))
      | rest => (numeral? rest).map (fun p => (.number p.1, p.2))

def items? : Nat → List UInt8 → Option (List Node × List UInt8)
  | 0, _ => none
  | fuel + 1, bs => do
      let (v, rest) ← value? fuel bs
      match skipSpace rest with
      | 0x2C :: rest => (items? fuel rest).map (fun p => (v :: p.1, p.2))
      | 0x5D :: rest => some ([v], rest)
      | _ => none

def members? : Nat → List UInt8 → Option (List (List UInt8 × Node) × List UInt8)
  | 0, _ => none
  | fuel + 1, bs =>
      match skipSpace bs with
      | 0x22 :: rest => do
          let (key, rest) ← StringBody.split? rest
          match skipSpace rest with
          | 0x3A :: rest => do
              let (v, rest) ← value? fuel rest
              match skipSpace rest with
              | 0x2C :: rest => (members? fuel rest).map (fun p => ((key, v) :: p.1, p.2))
              | 0x7D :: rest => some ([(key, v)], rest)
              | _ => none
          | _ => none
      | _ => none

end

end Reader

/-- The syntax tree of a whole document.  Every level of nesting and every item takes an octet of
the document, so twice its length bounds the recursion. -/
def Node.ofOctets? (bs : List UInt8) : Option Node := do
  let (v, rest) ← Reader.value? (2 * bs.length + 2) bs
  if (Reader.skipSpace rest).isEmpty then some v else none

end Json
end SessionAuth
