import SessionAuth.Crypto.Argon2
import SessionAuth.Password.StoredHash

/-!
# Hashing passwords

A password is hashed with the cost of the settings and a fresh salt, and verified with whatever
cost, version and variant its stored hash names.  So a change of the settings locks nobody out.
-/

namespace SessionAuth
namespace Password

open Crypto Encoding

structure Salt where
  octets : List UInt8
deriving DecidableEq

def octets (password : String) : List UInt8 :=
  password.toUTF8.toList

def outputLength : Nat := 32

def hash (cost : Argon2.Cost) (salt : Salt) (password : String) : StoredHash where
  algorithm := Argon2.Variant.argon2id.name
  version := some Argon2.Version.v19.code
  parameters :=
    [("m", toString cost.memory), ("t", toString cost.passes), ("p", toString cost.lanes)]
  salt := some (String.ofList (Base64.encode .standard salt.octets))
  output := some
    (Argon2.hash cost ⟨.argon2id, .v19, octets password, salt.octets, [], outputLength⟩)

inductive Verification where
  | same
  | different
  | malformed
  | unverifiable
deriving DecidableEq, Repr

namespace Verification

def accepts (v : Verification) : Bool :=
  v == .same

end Verification

structure Parameters where
  cost : Argon2.Cost
  associated : List UInt8
deriving DecidableEq, Repr

namespace Parameters

def standard : Parameters :=
  ⟨⟨19456, 2, 1⟩, []⟩

def shortOctets? (limit : Nat) (s : String) : Option (List UInt8) := do
  let bs ← Base64.decode .standard s.toList
  if bs.length ≤ limit then some bs else none

/-- The parameters after one more has been read.  The name of a key is checked and not used. -/
def read? (p : Parameters) (entry : String × String) : Option Parameters :=
  match entry.1 with
  | "m" => (decimal32? entry.2.toList).map (fun n => ⟨{ p.cost with memory := n }, p.associated⟩)
  | "t" => (decimal32? entry.2.toList).map (fun n => ⟨{ p.cost with passes := n }, p.associated⟩)
  | "p" => (decimal32? entry.2.toList).map (fun n => ⟨{ p.cost with lanes := n }, p.associated⟩)
  | "keyid" => (shortOctets? 8 entry.2).map (fun _ => p)
  | "data" => (shortOctets? 32 entry.2).map (fun bs => ⟨p.cost, bs⟩)
  | _ => none

def ofList? (entries : List (String × String)) : Option Parameters :=
  entries.foldlM read? standard

end Parameters

def recompute? (h : StoredHash) (salt : String) (size : Nat) (password : String) :
    Option (List UInt8) := do
  let variant ← Argon2.Variant.ofName? h.algorithm
  let version ← match h.version with
    | none => some Argon2.Version.v19
    | some v => Argon2.Version.ofCode? v
  let parameters ← Parameters.ofList? h.parameters
  let saltOctets ← Base64.decode .standard salt.toList
  match parameters.cost.check with
  | .error _ => none
  | .ok _ =>
      if 8 ≤ saltOctets.length then
        some (Argon2.hash parameters.cost
          ⟨variant, version, octets password, saltOctets, parameters.associated, size⟩)
      else none

/-- Verifies a password against a stored hash.  Nothing matches a hash that lacks a part. -/
def verifyParsed (h : StoredHash) (password : String) : Verification :=
  match h.salt, h.output with
  | some salt, some output =>
      match recompute? h salt output.length password with
      | none => .unverifiable
      | some computed => if computed = output then .same else .different
  | _, _ => .different

def verify (password stored : String) : Verification :=
  match StoredHash.parse? stored with
  | none => .malformed
  | some h => verifyParsed h password

end Password
end SessionAuth
