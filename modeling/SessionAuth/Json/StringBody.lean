import SessionAuth.Encoding.Hex

/-!
# Bodies of JSON strings

The octets between the quotes of a string: their grammar, the text that they stand for, and the
way a text is written.
-/

namespace SessionAuth
namespace Json

/-- Where a reader stops that cannot make anything of a value: right behind the value, so that
what follows can still be read, or before its end. -/
inductive Stop where
  | behind
  | within
deriving DecidableEq, Repr

namespace StringBody

open Encoding

def codeUnit? (a b c d : UInt8) : Option Nat := do
  let x ← Hex.value? (Char.ofNat a.toNat)
  let y ← Hex.value? (Char.ofNat b.toNat)
  let z ← Hex.value? (Char.ofNat c.toNat)
  let w ← Hex.value? (Char.ofNat d.toNat)
  return ((x * 16 + y) * 16 + z) * 16 + w

def escaped? (b : UInt8) : Option UInt8 :=
  [(0x22, 0x22), (0x5C, 0x5C), (0x2F, 0x2F), (0x62, 0x08), (0x66, 0x0C), (0x6E, 0x0A),
    (0x72, 0x0D), (0x74, 0x09)].lookup b

/-- The body at the front of some octets, up to the closing quote, and what follows the quote.
Control characters must be escaped. -/
def split? : List UInt8 → Option (List UInt8 × List UInt8)
  | [] => none
  | 0x22 :: rest => some ([], rest)
  | 0x5C :: 0x75 :: a :: b :: c :: d :: rest => do
      let _ ← codeUnit? a b c d
      let (body, after) ← split? rest
      return (0x5C :: 0x75 :: a :: b :: c :: d :: body, after)
  | 0x5C :: e :: rest => do
      let _ ← escaped? e
      let (body, after) ← split? rest
      return (0x5C :: e :: body, after)
  | b :: rest =>
      if b < 0x20 ∨ b = 0x5C then none
      else do
        let (body, after) ← split? rest
        return (b :: body, after)

/-- A part of a body: an octet of the text, or a UTF-16 code unit from an escape. -/
inductive Piece where
  | octet (b : UInt8)
  | codeUnit (n : Nat)
deriving DecidableEq, Repr

def pieces : List UInt8 → Option (List Piece)
  | [] => some []
  | 0x5C :: 0x75 :: a :: b :: c :: d :: rest => do
      return .codeUnit (← codeUnit? a b c d) :: (← pieces rest)
  | 0x5C :: e :: rest => do
      return .octet (← escaped? e) :: (← pieces rest)
  | b :: rest => do
      return .octet b :: (← pieces rest)

/-- The octets of pieces.  A surrogate must be followed by its partner: what stands in its place
after a high surrogate, be it the closing quote, is passed over before the reader stops. -/
def join : List Piece → Except Stop (List UInt8)
  | [] => .ok []
  | .octet b :: rest => (join rest).map (b :: ·)
  | .codeUnit h :: .codeUnit l :: rest =>
      if 0xD800 ≤ h ∧ h < 0xDC00 then
        if 0xDC00 ≤ l ∧ l < 0xE000 then
          (join rest).map (String.utf8EncodeChar
            (Char.ofNat (0x10000 + (h - 0xD800) * 0x400 + (l - 0xDC00))) ++ ·)
        else .error .within
      else if 0xDC00 ≤ h ∧ h < 0xE000 then .error .within
      else (join (.codeUnit l :: rest)).map (String.utf8EncodeChar (Char.ofNat h) ++ ·)
  | .codeUnit h :: rest =>
      if 0xD800 ≤ h ∧ h < 0xE000 then
        .error (if h < 0xDC00 ∧ rest.isEmpty then .behind else .within)
      else (join rest).map (String.utf8EncodeChar (Char.ofNat h) ++ ·)

/-- The text that a body stands for.  Its encoding is looked at last, when all of it is read. -/
def read (body : List UInt8) : Except Stop String :=
  match pieces body with
  | none => .error .within
  | some ps =>
      match join ps with
      | .error stop => .error stop
      | .ok octets =>
          match String.fromUTF8? octets.toByteArray with
          | none => .error .behind
          | some s => .ok s

def decode (body : List UInt8) : Option String :=
  (read body).toOption

/-- The written form of a character: quotes, backslashes and control characters are escaped. -/
def encodeChar (c : Char) : List Char :=
  match [('"', '"'), ('\\', '\\'), ('\x08', 'b'), ('\x0c', 'f'), ('\n', 'n'), ('\r', 'r'),
    ('\t', 't')].lookup c with
  | some e => ['\\', e]
  | none =>
      if c.toNat < 0x20 then
        ['\\', 'u', '0', '0', Hex.digit (c.toNat / 16), Hex.digit (c.toNat % 16)]
      else [c]

def encode (s : String) : List Char :=
  s.toList.flatMap encodeChar

end StringBody
end Json
end SessionAuth
