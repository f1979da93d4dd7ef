import SessionAuth.Proofs.Access.Ring
import SessionAuth.Settings.Validation

/-!
# What valid settings are

The checks come one after the other and the first rule that is broken is reported, but whether
settings are accepted does not depend on this order: they are if every rule is kept.
-/

namespace SessionAuth
namespace Settings

open Access

/-! # Single checks -/

theorem checkLifetime_eq_ok {n limit : Int} {notPositive tooMany : SettingsError} :
    checkLifetime n limit notPositive tooMany = .ok () ↔ 0 < n ∧ n ≤ limit := by
  unfold checkLifetime
  by_cases hpositive : n ≤ 0
  · rw [if_pos hpositive]
    constructor
    · intro h
      cases h
    · intro h
      exact absurd hpositive (Int.not_le.mpr h.left)
  · rw [if_neg hpositive]
    by_cases hlimit : limit < n
    · rw [if_pos hlimit]
      constructor
      · intro h
        cases h
      · intro h
        exact absurd hlimit (Int.not_lt.mpr h.right)
    · rw [if_neg hlimit]
      constructor
      · intro _
        exact ⟨Int.not_le.mp hpositive, Int.not_lt.mp hlimit⟩
      · intro _
        rfl

theorem checkKeys_eq_ok {seen : List String} {keys : List SigningKey} :
    checkKeys seen keys = .ok () ↔
      Issuer.duplicate? seen keys = none ∧
        ∀ k ∈ keys, minSecretOctets ≤ k.secret.utf8ByteSize := by
  induction keys generalizing seen with
  | nil => simp [checkKeys, Issuer.duplicate?]
  | cons k ks ih =>
      unfold checkKeys Issuer.duplicate?
      by_cases hseen : k.id ∈ seen
      · simp [hseen]
      · rw [if_neg hseen, if_neg hseen, List.forall_mem_cons]
        by_cases hshort : k.secret.utf8ByteSize < minSecretOctets
        · rw [if_pos hshort]
          constructor
          · intro h
            cases h
          · intro h
            exact absurd hshort (Nat.not_lt.mpr h.right.left)
        · rw [if_neg hshort, ih]
          constructor
          · intro h
            exact ⟨h.left, Nat.not_lt.mp hshort, h.right⟩
          · intro h
            exact ⟨h.left, h.right.right⟩

theorem checkActiveKey_eq_ok {t : TokenSettings} :
    checkActiveKey t = .ok () ↔
      ∃ k, Issuer.findKey? t.keys t.activeKeyId = some k ∧ k.retired = false := by
  have hfind : t.keys.find? (fun k => k.id == t.activeKeyId) =
      Issuer.findKey? t.keys t.activeKeyId := rfl
  unfold checkActiveKey
  rw [hfind]
  cases Issuer.findKey? t.keys t.activeKeyId with
  | none => simp
  | some k =>
      cases hretired : k.retired with
      | false => simp [hretired]
      | true => simp [hretired]

theorem checkCost_eq_ok {p : PasswordSettings} :
    checkCost p = .ok () ↔ p.cost.check = .ok () := by
  unfold checkCost
  cases p.cost.check with
  | error e => simp
  | ok _ => simp

/-! # All checks -/

/-- The rules that valid settings keep. -/
structure Valid (s : Settings) : Prop where
  accessMinutes : 0 < s.tokens.accessMinutes ∧ s.tokens.accessMinutes ≤ maxAccessMinutes
  refreshDays : 0 < s.tokens.refreshDays ∧ s.tokens.refreshDays ≤ maxRefreshDays
  distinct : (s.tokens.keys.map SigningKey.id).Nodup
  secrets : ∀ k ∈ s.tokens.keys, minSecretOctets ≤ k.secret.utf8ByteSize
  active : ∃ k ∈ s.tokens.keys, k.id = s.tokens.activeKeyId ∧ k.retired = false
  cost : s.password.cost.check = .ok ()
  channel : s.audit.channelCapacity ≠ 0
  production : s.environment = .prod → minProductionMemoryKib ≤ s.password.memoryKib

theorem seq_eq_ok {ε : Type} {x : Except ε Unit} {f : Unit → Except ε Unit} :
    x >>= f = .ok () ↔ x = .ok () ∧ f () = .ok () := by
  cases x with
  | error e => simp [bind, Except.bind]
  | ok a => simp [bind, Except.bind]

theorem ite_seq_eq_ok {ε : Type} {c : Prop} [Decidable c] {e : ε} {f : Unit → Except ε Unit} :
    (if c then Except.error e >>= f else Except.ok () >>= f) = .ok () ↔ ¬ c ∧ f () = .ok () := by
  by_cases hc : c
  · simp [hc, seq_eq_ok]
  · simp [hc, seq_eq_ok]

/-- Settings are accepted exactly if they keep every rule. -/
theorem validate_eq_ok {s : Settings} : s.validate = .ok () ↔ s.Valid := by
  unfold validate
  simp only [seq_eq_ok, ite_seq_eq_ok, checkLifetime_eq_ok, checkKeys_eq_ok,
    checkActiveKey_eq_ok, checkCost_eq_ok, Issuer.duplicate?_eq_none]
  by_cases hweak : s.environment = .prod ∧ s.password.memoryKib < minProductionMemoryKib
  · rw [if_pos hweak]
    constructor
    · intro h
      cases h.right.right.right.right.right.right
    · intro h
      exact absurd hweak.right (Nat.not_lt.mpr (h.production hweak.left))
  · rw [if_neg hweak]
    constructor
    · intro h
      rcases h with ⟨haccess, hrefresh, ⟨⟨hdistinct, _⟩, hsecrets⟩, ⟨k, hactive, hretired⟩, hcost,
        hchannel, _⟩
      rcases (Issuer.findKey?_eq_some hdistinct).mp hactive with ⟨hmem, hid⟩
      exact {
        accessMinutes := haccess
        refreshDays := hrefresh
        distinct := hdistinct
        secrets := hsecrets
        active := ⟨k, hmem, hid, hretired⟩
        cost := hcost
        channel := hchannel
        production := fun hprod => Nat.not_lt.mp (fun h => hweak ⟨hprod, h⟩) }
    · intro h
      rcases h.active with ⟨k, hmem, hid, hretired⟩
      have hactive := (Issuer.findKey?_eq_some h.distinct).mpr ⟨hmem, hid⟩
      have hnew : ∀ k ∈ s.tokens.keys, k.id ∉ ([] : List String) := by
        intro _ _ hseen
        cases hseen
      exact ⟨h.accessMinutes, h.refreshDays, ⟨⟨h.distinct, hnew⟩, h.secrets⟩,
        ⟨k, hactive, hretired⟩, h.cost, h.channel, rfl⟩

end Settings
end SessionAuth
