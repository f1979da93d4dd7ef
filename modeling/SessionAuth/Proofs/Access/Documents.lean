import SessionAuth.Access.Claims
import SessionAuth.Access.Header
import SessionAuth.Encoding.Base64
import SessionAuth.Proofs.Json.Members
import SessionAuth.Proofs.Json.RoundTrip

/-!
# What headers and payloads say

The claims of a payload are those of its members, and a header and a payload that are written are
read as what was written.
-/

namespace SessionAuth
namespace Access

open Json Encoding

/-! # Claims of members -/

def membersOf? (payload : List Char) : Option Members := do
  Members.ofNode? (← Node.ofOctets? (← Base64.decode .urlSafe payload))

/-- What claims were read from some members.  The administrator flag may be left out, and the
family may be left out or null. -/
structure Claims.ReadFrom (c : Claims) (ms : Members) : Prop where
  subject : ∃ n, ms.single? "sub" = some (some n) ∧ n.string? = some c.subject
  issuer : ∃ n, ms.single? "iss" = some (some n) ∧ n.string? = some c.issuer
  admin : (ms.single? "adm" = some none ∧ c.admin = false) ∨
    ∃ n, ms.single? "adm" = some (some n) ∧ n.bool? = some c.admin
  family : ((ms.single? "fam" = some none ∨ ms.single? "fam" = some (some .null)) ∧
      c.family = none) ∨
    ∃ n x, ms.single? "fam" = some (some n) ∧ n ≠ .null ∧ n.string? = some x ∧ c.family = some x
  expires : ∃ n, ms.single? "exp" = some (some n) ∧ n.int64? = some c.expires
  issuedAt : ∃ n, ms.single? "iat" = some (some n) ∧ n.int64? = some c.issuedAt
  tokenId : ∃ n, ms.single? "jti" = some (some n) ∧ n.string? = some c.tokenId

theorem Claims.ofMembers?_eq_some {ms : Members} {c : Claims} :
    Claims.ofMembers? ms = some c ↔ c.ReadFrom ms := by
  unfold Claims.ofMembers?
  simp only [Option.bind_eq_bind, Option.bind_eq_some_iff, Option.pure_def, Option.some.injEq]
  constructor
  · intro h
    rcases h with ⟨_, hsubject, _, hissuer, _, hadmin, _, hfamily, _, hexpires, _, hissuedAt, _,
      htokenId, rfl⟩
    exact {
      subject := Members.required?_eq_some.mp hsubject
      issuer := Members.required?_eq_some.mp hissuer
      admin := Members.standing?_eq_some.mp hadmin
      family := Members.optional?_eq_some.mp hfamily
      expires := Members.required?_eq_some.mp hexpires
      issuedAt := Members.required?_eq_some.mp hissuedAt
      tokenId := Members.required?_eq_some.mp htokenId }
  · intro h
    exact ⟨_, Members.required?_eq_some.mpr h.subject, _, Members.required?_eq_some.mpr h.issuer,
      _, Members.standing?_eq_some.mpr h.admin, _, Members.optional?_eq_some.mpr h.family,
      _, Members.required?_eq_some.mpr h.expires, _, Members.required?_eq_some.mpr h.issuedAt,
      _, Members.required?_eq_some.mpr h.tokenId, rfl⟩

theorem Payload.ofOctets?_eq_some {payload : List Char} {p : Payload}
    (h : (Base64.decode .urlSafe payload).bind Payload.ofOctets? = some p) :
    ∃ ms, membersOf? payload = some ms ∧ p.claims.ReadFrom ms := by
  rcases Option.bind_eq_some_iff.mp h with ⟨bs, hbs, hp⟩
  unfold Payload.ofOctets? at hp
  simp only [Option.bind_eq_bind, Option.bind_eq_some_iff] at hp
  rcases hp with ⟨n, hn, ms, hms, c, hc, _, _, _, _, hrest⟩
  split at hrest
  case isFalse => cases hrest
  case isTrue =>
      cases hrest
      refine ⟨ms, ?_, Claims.ofMembers?_eq_some.mp hc⟩
      simp only [membersOf?, hbs, Option.bind_eq_bind, Option.bind_some, hn, hms]

/-! # Written claims -/

theorem integral_toJson (c : Claims) : c.toJson.Integral := by
  unfold Claims.toJson
  cases c.family with
  | none => exact ⟨trivial, trivial, trivial, ⟨_, rfl⟩, ⟨_, rfl⟩, trivial, trivial⟩
  | some f => exact ⟨trivial, trivial, trivial, trivial, ⟨_, rfl⟩, ⟨_, rfl⟩, trivial, trivial⟩

theorem string?_node (s : String) : (JsonValue.string s).node.string? = some s :=
  StringBody.decode_encode s

theorem int64?_node {k : Int} (h : IntRange.int64.check? k = some k) :
    (JsonValue.int k).node.int64? = some k := by
  show (Numeral.toInt? (.ofInt k)).bind IntRange.int64.check? = some k
  rw [Numeral.toInt?_ofInt, Option.bind_some, h]

theorem Claims.exists_members {c : Claims}
    (hexpires : IntRange.int64.check? c.expires = some c.expires)
    (hissuedAt : IntRange.int64.check? c.issuedAt = some c.issuedAt) :
    ∃ ms, Members.ofNode? c.toJson.node = some ms ∧ c.ReadFrom ms ∧
      ms.single? "nbf" = some none ∧ ms.single? "aud" = some none := by
  unfold Claims.toJson
  rw [Members.ofNode?_object]
  refine ⟨_, rfl, ?_⟩
  refine ⟨?_, by cases c.family <;> simp [Members.single?],
    by cases c.family <;> simp [Members.single?]⟩
  exact {
    subject := ⟨_, by cases c.family <;> simp [Members.single?], string?_node c.subject⟩
    issuer := ⟨_, by cases c.family <;> simp [Members.single?], string?_node c.issuer⟩
    admin := Or.inr ⟨(JsonValue.bool c.admin).node,
      by cases c.family <;> simp [Members.single?], rfl⟩
    family := by
      cases hfamily : c.family with
      | none => exact Or.inl ⟨Or.inl (by simp [Members.single?]), rfl⟩
      | some f =>
          exact Or.inr ⟨(JsonValue.string f).node, f, by simp [Members.single?],
            by simp [JsonValue.node], string?_node f, rfl⟩
    expires := ⟨_, by cases c.family <;> simp [Members.single?], int64?_node hexpires⟩
    issuedAt := ⟨_, by cases c.family <;> simp [Members.single?], int64?_node hissuedAt⟩
    tokenId := ⟨_, by cases c.family <;> simp [Members.single?], string?_node c.tokenId⟩ }

theorem Payload.ofOctets?_write {c : Claims}
    (hexpires : IntRange.int64.check? c.expires = some c.expires)
    (hissuedAt : IntRange.int64.check? c.issuedAt = some c.issuedAt) :
    Payload.ofOctets? (Utf8.encode c.toJson.write) = some ⟨c, false⟩ := by
  rcases Claims.exists_members hexpires hissuedAt with ⟨ms, hms, hread, hnotBefore, haudience⟩
  unfold Payload.ofOctets?
  rw [Node.ofOctets?_write (integral_toJson c)]
  simp only [Option.bind_eq_bind, Option.bind_some, hms, Claims.ofMembers?_eq_some.mpr hread,
    hnotBefore, haudience]
  rfl

/-! # Written headers -/

theorem choice?_node (s : String) : (JsonValue.string s).node.choice? = some s :=
  StringBody.decode_encode s

theorem Header.ofOctets?_write (keyId : String) :
    Header.ofOctets? (Utf8.encode (Header.signedWith keyId).write) =
      some ⟨.hs256, some keyId⟩ := by
  have hintegral : (Header.signedWith keyId).Integral := ⟨trivial, trivial, trivial, trivial⟩
  have hnode : Header.ofNode? (Header.signedWith keyId).node =
      (Members.ofNode? (Header.signedWith keyId).node).bind Header.ofMembers? := rfl
  have halgorithm : Header.algorithm? (JsonValue.string Algorithm.hs256.name).node =
      some .hs256 := by
    unfold Header.algorithm?
    rw [choice?_node]
    rfl
  have hstring : ∀ s, Node.nullable? Node.string? (JsonValue.string s).node = some (some s) :=
    fun s => Node.nullable?_eq_some.mpr
      (Or.inr ⟨by simp [JsonValue.node], s, string?_node s, rfl⟩)
  unfold Header.ofOctets?
  rw [Node.ofOctets?_write hintegral, Option.bind_eq_bind, Option.bind_some, hnode]
  unfold Header.signedWith
  rw [Members.ofNode?_object, Option.bind_some]
  simp [Header.ofMembers?, Members.optional?, Members.required?, Members.standing?,
    Members.single?, halgorithm, hstring]

end Access
end SessionAuth
