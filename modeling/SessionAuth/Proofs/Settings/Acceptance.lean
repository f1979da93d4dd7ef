import SessionAuth.Proofs.Settings.Validation

/-!
# Which settings are accepted

The scan of the keys meets them in their order, and the search for the active key takes the first
of its name.  Neither shows in what is accepted: names are not shared, so the order of the keys is
free, and a key of a new name does not stand in the way of the others.
-/

namespace SessionAuth

namespace Settings

/-! # Other keys -/

def withKeys (s : Settings) (keys : List SigningKey) : Settings :=
  { s with tokens := { s.tokens with keys := keys } }

theorem Valid.perm {s : Settings} (hs : s.Valid) {keys : List SigningKey}
    (hkeys : keys.Perm s.tokens.keys) : (s.withKeys keys).Valid where
  accessMinutes := hs.accessMinutes
  refreshDays := hs.refreshDays
  distinct := (hkeys.map SigningKey.id).nodup_iff.mpr hs.distinct
  secrets := by
    intro k hk
    exact hs.secrets k (hkeys.mem_iff.mp hk)
  active := by
    rcases hs.active with ⟨k, hmem, hk⟩
    exact ⟨k, hkeys.mem_iff.mpr hmem, hk⟩
  cost := hs.cost
  channel := hs.channel
  production := hs.production

theorem Valid.cons {s : Settings} (hs : s.Valid) {k : SigningKey}
    (hnew : k.id ∉ s.tokens.keys.map SigningKey.id)
    (hsecret : minSecretOctets ≤ k.secret.utf8ByteSize) :
    (s.withKeys (k :: s.tokens.keys)).Valid where
  accessMinutes := hs.accessMinutes
  refreshDays := hs.refreshDays
  distinct := List.nodup_cons.mpr ⟨hnew, hs.distinct⟩
  secrets := List.forall_mem_cons.mpr ⟨hsecret, hs.secrets⟩
  active := by
    rcases hs.active with ⟨k', hmem, hk'⟩
    exact ⟨k', List.mem_cons_of_mem k hmem, hk'⟩
  cost := hs.cost
  channel := hs.channel
  production := hs.production

theorem validate_withKeys_perm {s : Settings} {keys : List SigningKey}
    (hkeys : keys.Perm s.tokens.keys) :
    (s.withKeys keys).validate = .ok () ↔ s.validate = .ok () := by
  rw [validate_eq_ok, validate_eq_ok]
  constructor
  · intro h
    exact h.perm hkeys.symm
  · intro h
    exact h.perm hkeys

/-! # What is accepted -/

/-- Settings are accepted exactly if both lifetimes lie within their limits, no two keys share a
name, every secret is long enough, the active key is one of the keys and signs, the cost of hashing
can be paid, the queue of events has room, and in production the cost is not too low.  So the order
of the keys does not count, and accepted settings stay accepted when a key of a new name is added
anywhere among them, retired or not. -/
theorem accepted_exactly (s : Settings) :
    (s.validate = .ok () ↔
      (1 ≤ s.tokens.accessMinutes ∧ s.tokens.accessMinutes ≤ 60) ∧
      (1 ≤ s.tokens.refreshDays ∧ s.tokens.refreshDays ≤ 365) ∧
      s.tokens.keys.Pairwise (fun k k' => k.id ≠ k'.id) ∧
      (∀ k ∈ s.tokens.keys, 32 ≤ k.secret.utf8ByteSize) ∧
      (∃ k ∈ s.tokens.keys, k.id = s.tokens.activeKeyId ∧ k.retired = false) ∧
      s.password.cost.check = .ok () ∧
      0 < s.audit.channelCapacity ∧
      (s.environment = .prod → 19456 ≤ s.password.memoryKib)) ∧
    (∀ keys, keys.Perm s.tokens.keys →
      ((s.withKeys keys).validate = .ok () ↔ s.validate = .ok ())) ∧
    (s.validate = .ok () → ∀ k keys, k.id ∉ s.tokens.keys.map SigningKey.id →
      32 ≤ k.secret.utf8ByteSize → keys.Perm (k :: s.tokens.keys) →
      (s.withKeys keys).validate = .ok ()) := by
  refine ⟨?_, ?_, ?_⟩
  · rw [validate_eq_ok]
    constructor
    · intro hs
      exact ⟨hs.accessMinutes, hs.refreshDays, List.pairwise_map.mp hs.distinct, hs.secrets,
        hs.active, hs.cost, Nat.pos_of_ne_zero hs.channel, hs.production⟩
    · intro h
      rcases h with ⟨haccess, hrefresh, hdistinct, hsecrets, hactive, hcost, hchannel, hprod⟩
      exact {
        accessMinutes := haccess
        refreshDays := hrefresh
        distinct := List.pairwise_map.mpr hdistinct
        secrets := hsecrets
        active := hactive
        cost := hcost
        channel := Nat.ne_of_gt hchannel
        production := hprod }
  · intro keys hkeys
    exact validate_withKeys_perm hkeys
  · intro hvalid k keys hnew hsecret hkeys
    have hs : (s.withKeys (k :: s.tokens.keys)).Valid :=
      (validate_eq_ok.mp hvalid).cons hnew hsecret
    exact validate_eq_ok.mpr (hs.perm hkeys)

namespace Sample

def least : Settings where
  environment := .dev
  serviceName := standardServiceName
  logLevel := standardLogLevel
  otlpEndpoint := none
  tokens := ⟨"service", "new", [⟨"new", "a secret of thirty-two octets ..", false⟩], 1, 1⟩
  password := ⟨8, 1, .standard⟩
  database := none
  audit := ⟨1⟩

def replacedKey : SigningKey :=
  ⟨"old", "another of more than thirty-two octets", true⟩

end Sample

theorem accepted_exactly_retired :
    Sample.least.validate = .ok () ∧
      (Sample.least.withKeys (Sample.least.tokens.keys ++ [Sample.replacedKey])).validate =
        .ok () := by
  have hvalid : Sample.least.validate = .ok () := by decide +kernel
  rcases accepted_exactly Sample.least with ⟨_, _, hadded⟩
  refine ⟨hvalid, hadded hvalid Sample.replacedKey _ ?_ ?_ ?_⟩
  · decide
  · decide +kernel
  · exact List.perm_append_comm

end Settings
end SessionAuth
