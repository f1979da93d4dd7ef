import SessionAuth.Proofs.Access.Verification

/-!
# Tokens and the change of keys

A token that was issued is accepted, up to its expiry, by every issuer of the same name whose ring
has the key that signed it, and by none of another name or without a key of that name.
-/

namespace SessionAuth
namespace Access
namespace Issuer

open Time Encoding

variable {a b : Issuer}

/-! # Whole seconds -/

theorem exists_ofSeconds? (t : Instant) :
    ∃ u, Instant.ofSeconds? t.seconds = some u ∧ u.nanos = t.seconds * nanosPerSecond := by
  have hcalendar := t.inCalendar
  have hseconds := seconds_eq t
  have hin : minInstantNanos ≤ t.seconds * nanosPerSecond ∧
      t.seconds * nanosPerSecond ≤ maxInstantNanos := by
    unfold minInstantNanos maxInstantNanos nanosPerSecond at *
    omega
  exact ⟨⟨_, hin⟩, dif_pos hin, rfl⟩

theorem seconds_nonneg {t : Instant} (h : .epoch ≤ t) : 0 ≤ t.seconds := by
  rw [seconds_eq]
  exact Int.ediv_nonneg h (by decide)

theorem seconds_add? {t : TokenSettings} (ha : Assembled t a) {now expires : Instant}
    (h : now.add? a.accessLifetime = some expires) :
    expires.seconds = now.seconds + a.accessSeconds ∧ 0 < a.accessSeconds := by
  have hnanos := Instant.add?_eq_some.mp h
  have haccess : a.accessSeconds = 60 * t.accessMinutes := by
    unfold accessSeconds Span.seconds
    rw [ha.lifetime, Int.mul_tdiv_cancel _ (by decide)]
  have hpositive := ha.positive
  rw [ha.lifetime] at hnanos
  rw [seconds_eq, seconds_eq, haccess, hnanos, Int.add_mul_ediv_right _ _ (by decide)]
  exact ⟨rfl, by omega⟩

/-! # Answers to signed tokens -/

section Signed

variable {key k : SigningKey} {c : Claims} (hkey : findKey? b.keys key.id = some k)
  (hsecret : key.secret = k.secret) (hc : c.Bounded) (hexpires : 0 ≤ c.expires)

include hkey hsecret hc hexpires

theorem answersUntil_of_name_eq {v : Verified} (hname : c.issuer = b.name)
    (hread : readClaims? k.id c = some v) :
    b.AnswersUntil (signedToken key c) c.expires (.ok v) := by
  refine b.answersUntil_of_verify (r := .ok v) (fun now => ?_)
  rw [b.verify_signedToken_of_some hkey hsecret hc]
  have hadmitted : ¬(c.issuer ≠ b.name ∨ (false : Bool) = true) := by simp [hname]
  unfold examine
  simp only [if_neg (Int.not_lt.mpr hexpires), if_neg hadmitted, hread]

theorem answersUntil_of_name_ne (hname : c.issuer ≠ b.name) :
    b.AnswersUntil (signedToken key c) c.expires (.error .invalidCredential) := by
  refine b.answersUntil_of_verify (r := .error .refused) (fun now => ?_)
  rw [b.verify_signedToken_of_some hkey hsecret hc]
  have hrefused : c.issuer ≠ b.name ∨ (false : Bool) = true := Or.inl hname
  unfold examine
  simp only [if_neg (Int.not_lt.mpr hexpires), if_pos hrefused]

end Signed

theorem presents_signedToken {key : SigningKey} {c : Claims}
    (hring : (a.keys.map SigningKey.id).Nodup) (hkey : key ∈ a.keys) (hc : c.Bounded)
    (hexpires : 0 ≤ c.expires) : a.Presents (signedToken key c) key c := by
  rcases Claims.exists_members hc.expires hc.issuedAt with ⟨ms, hms, hread, _, _⟩
  rcases decode_headerPart key.id with ⟨bs, hbs, hheader⟩
  have hpayload : membersOf? (payloadPart c) = some ms := by
    unfold membersOf? payloadPart
    rw [Base64.decode_encode, Option.bind_eq_bind, Option.bind_some, Compact.octets_eq,
      Json.Node.ofOctets?_write (integral_toJson c)]
    exact hms
  have hsigned : Signed key (signedToken key c) (headerPart key.id) (payloadPart c)
      (Compact.signature key.secret (headerPart key.id) (payloadPart c)) :=
    ⟨Compact.splitAt_of_split? (split?_signedToken key c) hbs, ⟨bs, hbs, hheader⟩, rfl⟩
  exact ⟨⟨hkey, unique_of_mem hring hkey⟩, ⟨_, _, _, ms, hsigned, hpayload, hread⟩, hexpires⟩

/-! # Issued tokens -/

theorem readClaims?_claims (keyId : String) (now : Instant) {expires u : Instant}
    (hu : Instant.ofSeconds? expires.seconds = some u) (tokenId : Id .accessToken)
    (subject : SubjectId) (admin : Bool) (family : Option FamilyId) :
    readClaims? keyId (a.claims now expires tokenId subject admin family) =
      some ⟨subject, admin, family, keyId, tokenId.text, u⟩ := by
  unfold readClaims? claims
  cases family with
  | none => simp [Id.parse?_text, hu]
  | some f => simp [Id.parse?_text, hu]

/-- The ring of `b` has the key that `a` signs with, by the same name and with the same secret. -/
def Shares (a b : Issuer) : Prop :=
  ∃ x ∈ a.keys, ∃ y ∈ b.keys, x.id = a.activeKeyId ∧ y.id = a.activeKeyId ∧ x.secret = y.secret

theorem exists_key_of_shares {key : SigningKey} (ha : (a.keys.map SigningKey.id).Nodup)
    (hb : (b.keys.map SigningKey.id).Nodup) (hshares : a.Shares b)
    (hkey : findKey? a.keys a.activeKeyId = some key) :
    ∃ k, findKey? b.keys key.id = some k ∧ key.secret = k.secret := by
  rcases hshares with ⟨x, hx, y, hy, hxid, hyid, hsecret⟩
  have hsame : key = x := by
    have hfound := (findKey?_eq_some ha).mpr ⟨hx, hxid⟩
    rw [hfound] at hkey
    exact (Option.some.inj hkey).symm
  subst hsame
  exact ⟨y, (findKey?_eq_some hb).mpr ⟨hy, hyid.trans hxid.symm⟩, hsecret⟩

theorem shares_self {start : Instant} {t : TokenSettings} (ha : assemble start t = .ok a) :
    a.Shares a := by
  have hassembled := assembled_of_assemble ha
  rcases hassembled.active with ⟨key, hkey, _⟩
  rcases (findKey?_eq_some hassembled.distinct).mp hkey with ⟨hmem, hid⟩
  exact ⟨key, hmem, key, hmem, hid, hid, rfl⟩

/-- From the start of 1970 on, an issuer issues a token whenever the expiry is in the calendar.
Every issuer whose ring has the key of the token, be it retired, answers up to the second of the
expiry with what the token was issued for if it has the same name, and that the token is not valid
if it has another one; after that second it answers that the token is too old.  An issuer whose
ring does not have a key of that name never accepts the token. -/
theorem issueAccess_honoured {start : Instant} {t : TokenSettings}
    (ha : assemble start t = .ok a) {now expires : Instant} (hnow : .epoch ≤ now)
    (hexpires : now.add? a.accessLifetime = some expires) (tokenId : Id .accessToken)
    (subject : SubjectId) (admin : Bool) (family : Option FamilyId) :
    ∃ cred u, a.issueAccess now tokenId subject admin family = .ok cred ∧
      cred.keyId = a.activeKeyId ∧ cred.expiresAt = expires ∧
      u.nanos = expires.seconds * nanosPerSecond ∧
      (∃ key c, a.Presents cred.token key c ∧ c.expires = expires.seconds ∧
        c.expires - c.issuedAt = a.accessSeconds) ∧
      ∀ start' t' b, assemble start' t' = .ok b →
        (a.Shares b → b.name = a.name → b.AnswersUntil cred.token expires.seconds
          (.ok ⟨subject, admin, family, a.activeKeyId, tokenId.text, u⟩)) ∧
        (a.Shares b → b.name ≠ a.name →
          b.AnswersUntil cred.token expires.seconds (.error .invalidCredential)) ∧
        ((∀ k ∈ b.keys, k.id ≠ a.activeKeyId) →
          ∀ second, b.answer second cred.token = .error .invalidCredential) := by
  have hassembled := assembled_of_assemble ha
  rcases hassembled.active with ⟨key, hkey, _⟩
  rcases (findKey?_eq_some hassembled.distinct).mp hkey with ⟨hmem, hid⟩
  rcases exists_ofSeconds? expires with ⟨u, hu, hnanos⟩
  rcases seconds_add? hassembled hexpires with ⟨hseconds, hpositive⟩
  -- From here on only the name and the instants of the claims matter, and how they are read.
  generalize hc : a.claims now expires tokenId subject admin family = c
  have hbounded : c.Bounded := hc ▸ a.bounded_claims now expires tokenId subject admin family
  have hlast : c.expires = expires.seconds := by rw [← hc]; rfl
  have hissued : c.issuedAt = now.seconds := by rw [← hc]; rfl
  have hname : c.issuer = a.name := by rw [← hc]; rfl
  have hnonneg : 0 ≤ c.expires := by
    have hfirst := seconds_nonneg hnow
    omega
  refine ⟨_, u, a.issueAccess_eq_ok hkey hexpires tokenId subject admin family, rfl, rfl, hnanos,
    ⟨key, c, ?_, hlast, by omega⟩, ?_⟩
  · rw [hc]
    exact presents_signedToken hassembled.distinct hmem hbounded hnonneg
  · intro start' t' b hb
    have hring := (assembled_of_assemble hb).distinct
    have hanswers : a.Shares b → ∃ k, findKey? b.keys key.id = some k ∧ key.secret = k.secret :=
      fun hshares => exists_key_of_shares hassembled.distinct hring hshares hkey
    rw [hc, ← hlast]
    refine ⟨?_, ?_, ?_⟩
    · intro hshares hsame
      rcases hanswers hshares with ⟨k, hk, hsecret⟩
      have hkid : k.id = a.activeKeyId := ((findKey?_eq_some hring).mp hk).right.trans hid
      refine answersUntil_of_name_eq hk hsecret hbounded hnonneg (hname.trans hsame.symm) ?_
      rw [← hc, hkid]
      exact readClaims?_claims a.activeKeyId now hu tokenId subject admin family
    · intro hshares hother
      rcases hanswers hshares with ⟨k, hk, hsecret⟩
      refine answersUntil_of_name_ne hk hsecret hbounded hnonneg ?_
      rw [hname]
      exact hother.symm
    · intro hlacks second
      have hnone : findKey? b.keys key.id = none := by
        rw [hid]
        exact findKey?_eq_none.mpr hlacks
      unfold answer
      rw [b.verify_signedToken_of_none hnone]
      rfl

/-! # A change of keys -/

namespace Sample

def laterSettings (name : String) (old : List SigningKey) : TokenSettings where
  issuer := name
  activeKeyId := "next"
  keys := ⟨"next", "another secret of at least thirty-two octets", false⟩ :: old
  accessMinutes := 5
  refreshDays := 30

def later (name : String) (old : List SigningKey) : Issuer where
  keys := (laterSettings name old).keys
  activeKeyId := "next"
  name := name
  accessLifetime := ⟨300 * nanosPerSecond, by decide⟩
  refreshLifetime := issuer.refreshLifetime

def half : Instant :=
  ⟨500000000, by decide⟩

def expiry : Instant :=
  ⟨600 * nanosPerSecond + 500000000, by decide⟩

end Sample

/-- A token outlives its key up to the last whole second of its lifetime, but not if the key is
gone, nor by another name. -/
theorem issueAccess_honoured_retired :
    ∃ cred u, Sample.issuer.issueAccess Sample.half ⟨Uuid.ofNat 1⟩ ⟨Uuid.ofNat 2⟩ true
        (some ⟨Uuid.ofNat 3⟩) = .ok cred ∧ u.nanos = 600 * nanosPerSecond ∧
      Sample.issuer.AnswersUntil cred.token 600
        (.ok ⟨⟨Uuid.ofNat 2⟩, true, some ⟨Uuid.ofNat 3⟩, "key", (Uuid.ofNat 1).text, u⟩) ∧
      (Sample.later "service" [{ Sample.key with retired := true }]).AnswersUntil cred.token 600
        (.ok ⟨⟨Uuid.ofNat 2⟩, true, some ⟨Uuid.ofNat 3⟩, "key", (Uuid.ofNat 1).text, u⟩) ∧
      (Sample.later "other" [Sample.key]).AnswersUntil cred.token 600
        (.error .invalidCredential) ∧
      ∀ second, (Sample.later "service" []).answer second cred.token =
        .error .invalidCredential := by
  rcases issueAccess_honoured Sample.assemble_settings (show .epoch ≤ Sample.half by decide)
    (show Sample.half.add? Sample.issuer.accessLifetime = some Sample.expiry by rfl)
    ⟨Uuid.ofNat 1⟩ ⟨Uuid.ofNat 2⟩ true (some ⟨Uuid.ofNat 3⟩) with
    ⟨cred, u, hissue, _, _, hnanos, _, hanswers⟩
  refine ⟨cred, u, hissue, hnanos, ?_, ?_, ?_, ?_⟩
  · exact (hanswers .epoch Sample.settings Sample.issuer Sample.assemble_settings).left
      (shares_self Sample.assemble_settings) rfl
  · exact (hanswers .epoch (Sample.laterSettings "service" [{ Sample.key with retired := true }])
      (Sample.later "service" [{ Sample.key with retired := true }]) rfl).left
        ⟨Sample.key, by decide, { Sample.key with retired := true }, by decide, rfl, rfl, rfl⟩ rfl
  · exact (hanswers .epoch (Sample.laterSettings "other" [Sample.key])
      (Sample.later "other" [Sample.key]) rfl).right.left
        ⟨Sample.key, by decide, Sample.key, by decide, rfl, rfl, rfl⟩ (by decide)
  · exact (hanswers .epoch (Sample.laterSettings "service" [])
      (Sample.later "service" []) rfl).right.right (by decide)

end Issuer
end Access
end SessionAuth
