import SessionAuth.Core
import SessionAuth.Proofs.Password.RoundTrip

/-!
# Verifiers

A service hashes new passwords at the cost of its settings, and verifies a password at the cost that
the stored hash names.  So a hash that was made at one cost is verified by a service that has since
changed to another one, and it is verified for the password that was hashed and for no other, as far
as the hash function tells passwords apart.
-/

namespace SessionAuth
namespace Password

open Crypto Encoding

/-- What hashes and verifies the passwords of a service.  Its memory in KiB and its passes have been
accepted, and there is one lane. -/
structure Verifier where
  memory : UInt32
  passes : UInt32
  accepted : Argon2.Cost.check ⟨memory.toNat, passes.toNat, 1⟩ = .ok ()

namespace Verifier

def cost (v : Verifier) : Argon2.Cost :=
  ⟨v.memory.toNat, v.passes.toNat, 1⟩

def hash (v : Verifier) (salt : Salt) (password : String) : String :=
  (Password.hash v.cost salt password).text

/-- Tells whether a password is the one of a stored text.  The text says how, and the verifier has
no part in it. -/
def verify (_ : Verifier) (password stored : String) : Bool :=
  (Password.verify password stored).accepts

def digest (v : Verifier) (salt : Salt) (password : String) : List UInt8 :=
  Argon2.hash v.cost ⟨.argon2id, .v19, octets password, salt.octets, [], outputLength⟩

theorem checkCost_eq_ok {p : PasswordSettings} (hmemory : p.memoryKib < size32)
    (hpasses : p.iterations < size32) {c : Argon2.Cost} :
    Core.checkCost p = .ok c ↔ ∃ v : Verifier, v.cost = p.cost ∧ c = p.cost := by
  unfold Core.checkCost
  constructor
  · intro h
    cases hcheck : p.cost.check with
    | error e =>
        rw [hcheck] at h
        cases h
    | ok a =>
        rw [hcheck] at h
        cases h
        have hm : (UInt32.ofNat p.memoryKib).toNat = p.memoryKib := UInt32.toNat_ofNat_of_lt hmemory
        have ht : (UInt32.ofNat p.iterations).toNat = p.iterations :=
          UInt32.toNat_ofNat_of_lt hpasses
        have hcost : (⟨(UInt32.ofNat p.memoryKib).toNat, (UInt32.ofNat p.iterations).toNat, 1⟩ :
            Argon2.Cost) = p.cost := by
          rw [hm, ht]
          rfl
        refine ⟨⟨UInt32.ofNat p.memoryKib, UInt32.ofNat p.iterations, ?_⟩, hcost, rfl⟩
        rw [hcost]
        exact hcheck
  · intro h
    rcases h with ⟨v, hcost, rfl⟩
    have hcheck : p.cost.check = .ok () := by
      rw [← hcost]
      exact v.accepted
    rw [hcheck]

end Verifier

/-- What a stored hash says of the way it was made, and of what the password came to. -/
structure StoredHash.Tells (h : StoredHash) (cost : Argon2.Cost) (salt : Salt)
    (output : List UInt8) : Prop where
  variant : Argon2.Variant.ofName? h.algorithm = some .argon2id
  version : h.version.bind Argon2.Version.ofCode? = some .v19
  parameters : Parameters.ofList? h.parameters = some ⟨cost, []⟩
  salt : h.salt.bind (fun s => Base64.decode .standard s.toList) = some salt.octets
  output : h.output = some output

namespace Verifier

theorem memory_lt (v : Verifier) : v.cost.memory < size32 :=
  v.memory.toNat_lt

theorem passes_lt (v : Verifier) : v.cost.passes < size32 :=
  v.passes.toNat_lt

theorem lanes_lt (v : Verifier) : v.cost.lanes < size32 := by
  change 1 < size32
  decide

section Hashes

variable (v w : Verifier) {salt : Salt} (password other : String)

theorem tells_hash : (Password.hash v.cost salt password).Tells v.cost salt
    (v.digest salt password) where
  variant := rfl
  version := rfl
  parameters :=
    ofList?_parameters_hash v.cost salt password v.memory_lt v.passes_lt v.lanes_lt
  salt := by
    change Base64.decode .standard (String.ofList (Base64.encode .standard salt.octets)).toList = _
    rw [String.toList_ofList, Base64.decode_encode]
  output := rfl

variable (hsalt : salt.octets.length = 16)
include hsalt

theorem parse?_hash :
    StoredHash.parse? (v.hash salt password) = some (Password.hash v.cost salt password) :=
  parse?_text_hash v.cost salt password v.memory_lt v.passes_lt v.lanes_lt (by omega) (by omega)

theorem verify_hash_iff :
    w.verify other (v.hash salt password) = true ↔
      v.digest salt other = v.digest salt password := by
  have hverify := verify_other_text_hash v.cost salt password other v.accepted v.memory_lt
    v.passes_lt (by omega) (by omega)
  change Password.verify other (v.hash salt password) =
    if v.digest salt other = v.digest salt password then .same else .different at hverify
  unfold verify
  rw [hverify]
  by_cases hsame : v.digest salt other = v.digest salt password
  · rw [if_pos hsame]
    exact iff_of_true rfl hsame
  · rw [if_neg hsame]
    exact iff_of_false Bool.false_ne_true hsame

/-- With a salt of sixteen octets, the text that is stored for a password is read as what was
stored: the variant, the version, the cost at which the password was hashed, the salt and what the
password came to.  So a verifier of any cost accepts the password, and it accepts another password
exactly if this one comes to the same with the salt and at the cost of the stored text. -/
theorem verifies_across_costs :
    (∃ h, StoredHash.parse? (v.hash salt password) = some h ∧
      h.Tells v.cost salt (v.digest salt password)) ∧
    w.verify password (v.hash salt password) = true ∧
    ∀ other, w.verify other (v.hash salt password) = true ↔
      v.digest salt other = v.digest salt password :=
  ⟨⟨_, v.parse?_hash password hsalt, v.tells_hash password⟩,
    (v.verify_hash_iff w password password hsalt).mpr rfl,
    fun other => v.verify_hash_iff w password other hsalt⟩

end Hashes

namespace Sample

def cheap : Verifier :=
  ⟨8, 1, rfl⟩

def dear : Verifier :=
  ⟨4294967295, 4294967295, rfl⟩

def salt : Salt :=
  ⟨[251, 0, 255, 1, 2, 3, 4, 5, 6, 7, 8, 9, 10, 11, 12, 13]⟩

end Sample

/-- A password is still accepted when the highest cost has given way to the lowest one. -/
theorem verifies_across_costs_dear :
    Sample.salt.octets.length = 16 ∧
      (∃ h, StoredHash.parse? (Sample.dear.hash Sample.salt "schnäpschen") = some h ∧
        h.Tells ⟨4294967295, 4294967295, 1⟩ Sample.salt
          (Sample.dear.digest Sample.salt "schnäpschen")) ∧
      Sample.cheap.verify "schnäpschen" (Sample.dear.hash Sample.salt "schnäpschen") = true := by
  have hsalt : Sample.salt.octets.length = 16 := rfl
  rcases verifies_across_costs Sample.dear Sample.cheap "schnäpschen" hsalt with
    ⟨hread, hverifies, _⟩
  exact ⟨hsalt, hread, hverifies⟩

end Verifier
end Password
end SessionAuth
