import SessionAuth.Proofs.Access.Compact
import SessionAuth.Proofs.Access.Documents
import SessionAuth.Proofs.Access.Ring
import SessionAuth.Proofs.Uuid

/-!
# Tokens that were issued

An issuer that has been assembled issues a token whenever its expiry is in the calendar.  A token
that was signed with a key of a ring is examined by its claims alone.
-/

namespace SessionAuth
namespace Access

open Time Encoding

/-! # The parts of a signed token -/

def headerPart (keyId : String) : List Char :=
  Base64.encode .urlSafe (Compact.octets (Header.signedWith keyId).write)

def payloadPart (c : Claims) : List Char :=
  Base64.encode .urlSafe (Compact.octets c.toJson.write)

def signedToken (key : SigningKey) (c : Claims) : String :=
  String.ofList (Compact.sign key.secret (Header.signedWith key.id).write c.toJson.write)

structure Claims.Bounded (c : Claims) : Prop where
  expires : IntRange.int64.check? c.expires = some c.expires
  issuedAt : IntRange.int64.check? c.issuedAt = some c.issuedAt

theorem split?_signedToken (key : SigningKey) (c : Claims) :
    Compact.split? (signedToken key c).toList =
      some (headerPart key.id, payloadPart c,
        Compact.signature key.secret (headerPart key.id) (payloadPart c)) := by
  refine Compact.split?_eq_some.mpr ⟨String.toList_ofList, ?_, ?_⟩
  · exact Compact.dot_not_mem_encode _ _
  · exact Compact.dot_not_mem_encode _ _

theorem decode_headerPart (keyId : String) :
    ∃ bs, Base64.decode .urlSafe (headerPart keyId) = some bs ∧
      Header.ofOctets? bs = some ⟨.hs256, some keyId⟩ := by
  refine ⟨_, Base64.decode_encode _ _, ?_⟩
  rw [Compact.octets_eq, Header.ofOctets?_write]

theorem decode_payloadPart {c : Claims} (hc : c.Bounded) :
    (Base64.decode .urlSafe (payloadPart c)).bind Payload.ofOctets? = some ⟨c, false⟩ := by
  unfold payloadPart
  rw [Base64.decode_encode, Option.bind_some, Compact.octets_eq,
    Payload.ofOctets?_write hc.expires hc.issuedAt]

namespace Issuer

variable (i : Issuer) {c : Claims} {key : SigningKey}

/-! # Verification -/

theorem keyOf?_headerPart (keyId : String) :
    i.keyOf? (headerPart keyId) = findKey? i.keys keyId := by
  rcases decode_headerPart keyId with ⟨bs, hbs, hheader⟩
  unfold keyOf?
  rw [hbs, Option.bind_eq_bind, Option.bind_some, hheader]
  rfl

/-- A token that was signed with a key of another name is not read. -/
theorem verify_signedToken_of_none (hkey : findKey? i.keys key.id = none) (now : Int) :
    i.verify now (signedToken key c) = .error .unreadable := by
  unfold verify
  rw [split?_signedToken]
  simp only [keyOf?_headerPart, hkey]

/-- A token that was signed with a key of the ring is examined by its claims. -/
theorem verify_signedToken_of_some {k : SigningKey} (hkey : findKey? i.keys key.id = some k)
    (hsecret : key.secret = k.secret) (hc : c.Bounded) (now : Int) :
    i.verify now (signedToken key c) = i.examine now k.id (some ⟨c, false⟩) := by
  unfold verify
  rw [split?_signedToken]
  simp only [keyOf?_headerPart, hkey, hsecret, if_true, decode_payloadPart hc]

/-! # Issuing -/

theorem seconds_eq (t : Instant) : t.seconds = t.nanos / nanosPerSecond :=
  Int.fdiv_eq_ediv_of_nonneg _ (by decide)

theorem int64_seconds (t : Instant) : IntRange.int64.check? t.seconds = some t.seconds := by
  have hcalendar := t.inCalendar
  have hseconds := seconds_eq t
  refine IntRange.check?_eq_some_iff.mpr ⟨rfl, ?_⟩
  unfold minInstantNanos maxInstantNanos nanosPerSecond at hcalendar
  unfold nanosPerSecond at hseconds
  simp only [IntRange.int64]
  omega

theorem bounded_claims (now expires : Instant) (tokenId : Id .accessToken) (subject : SubjectId)
    (admin : Bool) (family : Option FamilyId) :
    (i.claims now expires tokenId subject admin family).Bounded :=
  ⟨int64_seconds expires, int64_seconds now⟩

theorem issueAccess_eq_ok {now expires : Instant} (hkey : findKey? i.keys i.activeKeyId = some key)
    (hexpires : now.add? i.accessLifetime = some expires) (tokenId : Id .accessToken)
    (subject : SubjectId) (admin : Bool) (family : Option FamilyId) :
    i.issueAccess now tokenId subject admin family =
      .ok ⟨signedToken key (i.claims now expires tokenId subject admin family), i.activeKeyId,
        expires⟩ := by
  have hid : key.id = i.activeKeyId := by simpa using List.find?_some hkey
  unfold issueAccess signedToken
  rw [hid]
  simp only [hkey, hexpires]

end Issuer

end Access
end SessionAuth
