import SessionAuth.Proofs.Access.Issuing

/-!
# Verification of access tokens

A token is accepted only if it was signed with a key of the ring and says what the issuer wants to
hear.  That a token is too old is said only of tokens that were signed, and once it is said it is
said for ever.
-/

namespace SessionAuth
namespace Access

open Time Encoding

/-! # Signatures -/

/-- A token of three parts with dots between.  The first one is a header that names the algorithm
and a key, and the last one is the code of the other two under the secret of that key. -/
structure Signed (key : SigningKey) (token : String) (header payload signature : List Char) :
    Prop where
  parts : Text.splitAt '.' token.toList = [header, payload, signature]
  names : ∃ bs, Base64.decode .urlSafe header = some bs ∧
    Header.ofOctets? bs = some ⟨.hs256, some key.id⟩
  code : signature = Base64.encode .urlSafe (Crypto.Hmac.code key.secret.toUTF8.toList
    (Compact.octets (header ++ '.' :: payload)))

/-! # Claims -/

/-- What an issuer takes claims to say. -/
structure Claims.Grants (c : Claims) (i : Issuer) (v : Verified) : Prop where
  issuer : c.issuer = i.name
  subject : Id.parse? c.subject = some v.subject
  admin : v.admin = c.admin
  family : (c.family = none ∧ v.family = none) ∨
    ∃ x fam, c.family = some x ∧ Id.parse? x = some fam ∧ v.family = some fam
  expires : v.expiresAt.nanos = c.expires * nanosPerSecond
  tokenId : v.tokenId = c.tokenId

namespace Issuer

variable (i : Issuer)

theorem readClaims?_eq_some {keyId : String} {c : Claims} {v : Verified}
    (h : readClaims? keyId c = some v) (hissuer : c.issuer = i.name) :
    c.Grants i v ∧ v.keyId = keyId := by
  unfold readClaims? at h
  cases hfamily : c.family with
  | none =>
      simp only [hfamily, Option.bind_eq_bind, Option.bind_some, Option.bind_eq_some_iff,
        Option.pure_def, Option.some.injEq] at h
      rcases h with ⟨subject, hsubject, expires, hexpires, rfl⟩
      exact ⟨⟨hissuer, hsubject, rfl, Or.inl ⟨hfamily, rfl⟩, Instant.ofNanos?_eq_some.mp hexpires,
        rfl⟩, rfl⟩
  | some x =>
      simp only [hfamily, Option.bind_eq_bind, Option.bind_eq_some_iff, Option.map_eq_some_iff,
        Option.pure_def, Option.some.injEq] at h
      rcases h with ⟨subject, hsubject, _, ⟨fam, hfam, rfl⟩, expires, hexpires, rfl⟩
      exact ⟨⟨hissuer, hsubject, rfl, Or.inr ⟨x, fam, hfamily, hfam, rfl⟩,
        Instant.ofNanos?_eq_some.mp hexpires, rfl⟩, rfl⟩

/-! # Cases -/

theorem examine_cases (keyId : String) (payload : Option Payload) :
    (∀ now, i.examine now keyId payload = .error .refused) ∨
    ∃ p r, payload = some p ∧ 0 ≤ p.claims.expires ∧
      (r = .error .refused ∨ r = .error .unreadable ∨
        ∃ v, r = .ok v ∧ p.claims.Grants i v ∧ v.keyId = keyId) ∧
      ∀ now, i.examine now keyId payload =
        if p.claims.expires < now then .error .expired else r := by
  cases payload with
  | none => exact Or.inl (fun _ => rfl)
  | some p =>
      unfold examine
      by_cases hnegative : p.claims.expires < 0
      · exact Or.inl (fun _ => if_pos hnegative)
      · right
        simp only [if_neg hnegative]
        have hexpires : 0 ≤ p.claims.expires := Int.not_lt.mp hnegative
        by_cases hrestricted : p.claims.issuer ≠ i.name ∨ p.restricted
        · simp only [if_pos hrestricted]
          exact ⟨p, _, rfl, hexpires, Or.inl rfl, fun _ => rfl⟩
        · simp only [if_neg hrestricted]
          cases hread : readClaims? keyId p.claims with
          | none => exact ⟨p, _, rfl, hexpires, Or.inr (Or.inl rfl), fun _ => rfl⟩
          | some v =>
              have hissuer : p.claims.issuer = i.name := by
                by_contra hne
                exact hrestricted (Or.inl hne)
              exact ⟨p, _, rfl, hexpires,
                Or.inr (Or.inr ⟨v, rfl, i.readClaims?_eq_some hread hissuer⟩), fun _ => rfl⟩

theorem keyOf?_eq_some {header : List Char} {key : SigningKey} (h : i.keyOf? header = some key) :
    findKey? i.keys key.id = some key ∧ ∃ bs, Base64.decode .urlSafe header = some bs ∧
      Header.ofOctets? bs = some ⟨.hs256, some key.id⟩ := by
  unfold keyOf? at h
  simp only [Option.bind_eq_bind, Option.bind_eq_some_iff] at h
  rcases h with ⟨bs, hbs, x, hx, hkey⟩
  split at hkey
  case isFalse => cases hkey
  case isTrue halgorithm =>
      rcases Option.bind_eq_some_iff.mp hkey with ⟨id, hid, hfound⟩
      have hname : key.id = id := by simpa using List.find?_some hfound
      subst hname
      refine ⟨hfound, bs, hbs, ?_⟩
      rw [hx, ← halgorithm, ← hid]

/-- The verification of a token as the clock goes on: it is never accepted nor too old, or it was
signed and all depends on its payload. -/
theorem verify_cases (token : String) :
    (∃ e, e ≠ .expired ∧ ∀ now, i.verify now token = .error e) ∨
    ∃ key header payload signature, findKey? i.keys key.id = some key ∧
      Signed key token header payload signature ∧
      ∀ now, i.verify now token =
        i.examine now key.id ((Base64.decode .urlSafe payload).bind Payload.ofOctets?) := by
  unfold verify
  cases hsplit : Compact.split? token.toList with
  | none => exact Or.inl ⟨.unreadable, by simp, fun _ => rfl⟩
  | some parts =>
      rcases parts with ⟨header, payload, signature⟩
      cases hkey : i.keyOf? header with
      | none => exact Or.inl ⟨.unreadable, by simp, fun _ => by simp only [hkey]⟩
      | some key =>
          simp only [hkey]
          by_cases hcode : signature = Compact.signature key.secret header payload
          · simp only [if_pos hcode]
            rcases i.keyOf?_eq_some hkey with ⟨hfound, bs, hbs, hheader⟩
            have hsigned : Signed key token header payload signature :=
              ⟨Compact.splitAt_of_split? hsplit hbs, ⟨bs, hbs, hheader⟩, hcode⟩
            exact Or.inr ⟨key, header, payload, signature, hfound, hsigned, fun _ => rfl⟩
          · simp only [if_neg hcode]
            exact Or.inl ⟨.refused, by simp, fun _ => rfl⟩

/-! # Answers -/

def answer (now : Int) (token : String) : Except Failure Verified :=
  (i.verify now token).mapError TokenRejection.failure

/-- A token gets one and the same answer up to a second, and is too old from then on. -/
structure AnswersUntil (token : String) (last : Int) (r : Except Failure Verified) : Prop where
  upTo : ∀ now, now ≤ last → i.answer now token = r
  after : ∀ now, last < now → i.answer now token = .error .expired

theorem answersUntil_of_verify {token : String} {last : Int} {r : Except TokenRejection Verified}
    (h : ∀ now, i.verify now token = if last < now then .error .expired else r) :
    i.AnswersUntil token last (r.mapError TokenRejection.failure) := by
  constructor
  · intro now hnow
    unfold answer
    rw [h, if_neg (Int.not_lt.mpr hnow)]
  · intro now hnow
    unfold answer
    rw [h, if_pos hnow]
    rfl

/-- A token with claims that was signed with a key of the ring. -/
structure Presents (token : String) (key : SigningKey) (c : Claims) : Prop where
  ring : key ∈ i.keys ∧ ∀ k ∈ i.keys, k.id = key.id → k = key
  signed : ∃ header payload signature ms, Signed key token header payload signature ∧
    membersOf? payload = some ms ∧ c.ReadFrom ms
  expires : 0 ≤ c.expires

theorem failure_of_ne_expired {e : TokenRejection} (h : e ≠ .expired) :
    e.failure = .invalidCredential := by
  cases e with
  | unreadable => rfl
  | refused => rfl
  | expired => exact absurd rfl h

theorem answer_cases (hring : (i.keys.map SigningKey.id).Nodup) (token : String) :
    (∀ now, i.answer now token = .error .invalidCredential) ∨
    ∃ key c r, i.Presents token key c ∧
      (r = .error .invalidCredential ∨
        ∃ v, r = .ok v ∧ c.Grants i v ∧ v.keyId = key.id) ∧
      i.AnswersUntil token c.expires r := by
  rcases i.verify_cases token with
    ⟨e, hne, hverify⟩ | ⟨key, header, payload, signature, hfound, hsigned, hverify⟩
  · left
    intro now
    unfold answer
    rw [hverify, ← failure_of_ne_expired hne]
    rfl
  · rcases (findKey?_eq_some hring).mp hfound with ⟨hmem, _⟩
    rcases i.examine_cases key.id ((Base64.decode .urlSafe payload).bind Payload.ofOctets?) with
      hrefused | ⟨p, r, hpayload, hexpires, hr, hexamine⟩
    · left
      intro now
      unfold answer
      rw [hverify, hrefused]
      rfl
    · right
      rcases Payload.ofOctets?_eq_some hpayload with ⟨ms, hms, hread⟩
      refine ⟨key, p.claims, r.mapError TokenRejection.failure,
        ⟨⟨hmem, unique_of_mem hring hmem⟩, ⟨header, payload, signature, ms, hsigned, hms, hread⟩,
          hexpires⟩, ?_,
        i.answersUntil_of_verify (fun now => (hverify now).trans (hexamine now))⟩
      rcases hr with rfl | rfl | ⟨v, rfl, hgrants⟩
      · exact Or.inl rfl
      · exact Or.inl rfl
      · exact Or.inr ⟨v, rfl, hgrants⟩

/-- Whatever text is presented to an issuer, and whenever: it is accepted only if it was signed
with a key of the ring and grants what the answer says, up to the second of its expiry; it is too
old only if it was signed with a key of the ring and its expiry is over; and it is either refused
for ever, or gets one and the same answer up to its expiry and is too old from then on. -/
theorem answer_sound {start : Instant} {t : TokenSettings} {i : Issuer}
    (hi : assemble start t = .ok i) (token : String) :
    (∀ now v, i.answer now token = .ok v →
      ∃ key c, i.Presents token key c ∧ c.Grants i v ∧ v.keyId = key.id ∧ now ≤ c.expires) ∧
    (∀ now, i.answer now token = .error .expired →
      ∃ key c, i.Presents token key c ∧ c.expires < now) ∧
    ((∀ now, i.answer now token = .error .invalidCredential) ∨
      ∃ key c r, i.Presents token key c ∧
        (r = .error .invalidCredential ∨ ∃ v, r = .ok v) ∧
        i.AnswersUntil token c.expires r) := by
  rcases i.answer_cases (assembled_of_assemble hi).distinct token with
    hinvalid | ⟨key, c, r, hpresents, hr, hanswers⟩
  · refine ⟨?_, ?_, Or.inl hinvalid⟩
    · intro now v hok
      rw [hinvalid] at hok
      cases hok
    · intro now hexpired
      rw [hinvalid] at hexpired
      cases hexpired
  · refine ⟨?_, ?_, Or.inr ⟨key, c, r, hpresents, ?_, hanswers⟩⟩
    · intro now v hok
      rcases Int.lt_or_le c.expires now with hage | hage
      · rw [hanswers.after now hage] at hok
        cases hok
      · rw [hanswers.upTo now hage] at hok
        rcases hr with rfl | ⟨x, rfl, hgrants, hkey⟩
        · cases hok
        · cases hok
          exact ⟨key, c, hpresents, hgrants, hkey, hage⟩
    · intro now hexpired
      rcases Int.lt_or_le c.expires now with hage | hage
      · exact ⟨key, c, hpresents, hage⟩
      -- Up to the expiry the answer is the one of that time, never that the token is too old.
      · rw [hanswers.upTo now hage] at hexpired
        rcases hr with rfl | ⟨x, rfl, _⟩
        · cases hexpired
        · cases hexpired
    · rcases hr with hr | ⟨v, hr, _⟩
      · exact Or.inl hr
      · exact Or.inr ⟨v, hr⟩

/-! # A token -/

namespace Sample

def key : SigningKey :=
  ⟨"key", "a secret of at least thirty-two octets", false⟩

def settings : TokenSettings where
  issuer := "service"
  activeKeyId := "key"
  keys := [key]
  accessMinutes := 10
  refreshDays := 30

def issuer : Issuer where
  keys := [key]
  activeKeyId := "key"
  name := "service"
  accessLifetime := ⟨600 * nanosPerSecond, by decide⟩
  refreshLifetime := ⟨2592000 * nanosPerSecond, by decide⟩

theorem assemble_settings : assemble .epoch settings = .ok issuer := by
  rfl

def claims : Claims where
  subject := "00000000-0000-0000-0000-000000000002"
  issuer := "service"
  admin := true
  family := none
  expires := 600
  issuedAt := 0
  tokenId := "00000000-0000-0000-0000-000000000001"

end Sample

/-- A token is accepted in the last second before it is too old. -/
theorem answer_sound_signed :
    ∃ v key c, Sample.issuer.answer 600 (signedToken Sample.key Sample.claims) = .ok v ∧
      Sample.issuer.Presents (signedToken Sample.key Sample.claims) key c ∧
      c.Grants Sample.issuer v ∧ 600 ≤ c.expires ∧
      Sample.issuer.answer 601 (signedToken Sample.key Sample.claims) = .error .expired := by
  have hverify := Sample.issuer.verify_signedToken_of_some (show
    findKey? Sample.issuer.keys Sample.key.id = some Sample.key from rfl) rfl
      (show Sample.claims.Bounded from ⟨rfl, rfl⟩)
  have hanswers :
      (Sample.issuer.answer 600 (signedToken Sample.key Sample.claims)).toBool = true ∧
        Sample.issuer.answer 601 (signedToken Sample.key Sample.claims) = .error .expired := by
    unfold answer
    rw [hverify, hverify]
    decide +kernel
  rcases answer_sound Sample.assemble_settings (signedToken Sample.key Sample.claims) with
    ⟨hok, _, _⟩
  cases hanswer : Sample.issuer.answer 600 (signedToken Sample.key Sample.claims) with
  | error e =>
      rw [hanswer] at hanswers
      cases hanswers.left
  | ok v =>
      rcases hok 600 v hanswer with ⟨key, c, hpresents, hgrants, _, hexpires⟩
      exact ⟨v, key, c, rfl, hpresents, hgrants, hexpires, hanswers.right⟩

end Issuer

end Access
end SessionAuth
