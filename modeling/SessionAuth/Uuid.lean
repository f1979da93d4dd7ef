import SessionAuth.Encoding.Hex
import SessionAuth.Encoding.Words

/-!
# Universally unique identifiers

Sixteen octets, their canonical text, and the other texts that denote them.
-/

namespace SessionAuth

open Encoding

structure Uuid where
  octets : List UInt8
  length_octets : octets.length = 16
deriving DecidableEq

namespace Uuid

def ofOctets? (bs : List UInt8) : Option Uuid :=
  if h : bs.length = 16 then some ⟨bs, h⟩ else none

@[simp] theorem ofOctets?_octets (u : Uuid) : ofOctets? u.octets = some u := by
  simp [ofOctets?, u.length_octets]

def ofNat (n : Nat) : Uuid :=
  ⟨bigEndian 16 n, length_bigEndian 16 n⟩

/-- Octets with six bits changed, which mark version four and the common variant. -/
def mark (bs : List UInt8) : List UInt8 :=
  (bs.set 6 (bs.getD 6 0 &&& 0x0F ||| 0x40)).set 8 (bs.getD 8 0 &&& 0x3F ||| 0x80)

@[simp] theorem length_mark (bs : List UInt8) : (mark bs).length = bs.length := by
  simp [mark]

/-- A random identifier: all bits but six are those of the given number. -/
def random (n : Nat) : Uuid :=
  ⟨mark (bigEndian 16 n), (length_mark _).trans (length_bigEndian 16 n)⟩

def isRandom (u : Uuid) : Bool :=
  (u.octets.getD 6 0) >>> 4 == 4 && (u.octets.getD 8 0) >>> 6 == 2

/-! # Texts -/

/-- The text of an identifier: groups of 8, 4, 4, 4 and 12 small digits with hyphens between. -/
def chars (u : Uuid) : List Char :=
  Hex.encode (u.octets.take 4) ++ '-' :: (Hex.encode ((u.octets.drop 4).take 2) ++
    '-' :: (Hex.encode ((u.octets.drop 6).take 2) ++
      '-' :: (Hex.encode ((u.octets.drop 8).take 2) ++ '-' :: Hex.encode (u.octets.drop 10))))

def text (u : Uuid) : String :=
  String.ofList u.chars

instance : ToString Uuid := ⟨text⟩

def ofDigits? (cs : List Char) : Option Uuid := do
  ofOctets? (← Hex.decode cs)

def ofGroups? (cs : List Char) : Option Uuid :=
  if cs.length = 36 ∧ cs[8]? = some '-' ∧ cs[13]? = some '-' ∧ cs[18]? = some '-' ∧
      cs[23]? = some '-' then
    ofDigits? (cs.take 8 ++ (cs.drop 9).take 4 ++ (cs.drop 14).take 4 ++ (cs.drop 19).take 4 ++
      cs.drop 24)
  else none

/-- The identifier that a text denotes: its digits in a row or in groups, or the groups between
braces or after the name of the resource scheme, in which capitals count as small letters. -/
def ofChars? (cs : List Char) : Option Uuid :=
  match cs.length with
  | 32 => ofDigits? cs
  | 36 => ofGroups? cs
  | 38 =>
      if cs.head? = some '\x7b' ∧ cs.getLast? = some '\x7d' then ofGroups? ((cs.drop 1).take 36)
      else none
  | 45 =>
      if (cs.take 9).map Char.toLower = "urn:uuid:".toList then ofGroups? (cs.drop 9) else none
  | _ => none

def parse? (s : String) : Option Uuid :=
  ofChars? s.toList

def isRandomText (s : String) : Bool :=
  (parse? s).any (fun u => u.text == s && u.isRandom)

end Uuid

/-! # Identifiers of the things in the store -/

inductive Entity where
  | subject
  | family
  | record
  | grant
  | resource
  | event
  | accessToken
deriving DecidableEq, Repr

structure Id (e : Entity) where
  uuid : Uuid
deriving DecidableEq

namespace Id

def text {e : Entity} (i : Id e) : String :=
  i.uuid.text

def parse? {e : Entity} (s : String) : Option (Id e) :=
  (Uuid.parse? s).map Id.mk

end Id

abbrev SubjectId := Id .subject

abbrev FamilyId := Id .family

abbrev RecordId := Id .record

abbrev GrantId := Id .grant

abbrev ResourceId := Id .resource

end SessionAuth
