import SessionAuth.Proofs.Refresh.Operations

/-!
# The evolution of tables

A record keeps for ever what it was issued with, never becomes active again, and does not change
any more once it is withdrawn.  A family only gains records at its end, and none once it is
withdrawn.  So what is read from a table stays true of all tables that come after it.
-/

namespace SessionAuth
namespace Refresh

open Time

structure Record.Evolves (r s : Record) : Prop where
  id : s.id = r.id
  subject : s.subject = r.subject
  family : s.family = r.family
  generation : s.generation = r.generation
  tokenHash : s.tokenHash = r.tokenHash
  expiresAt : s.expiresAt = r.expiresAt
  createdAt : s.createdAt = r.createdAt
  spent : r.state ≠ .active → s.state ≠ .active
  revoked : r.state = .revoked → s = r

namespace Record.Evolves

theorem refl (r : Record) : r.Evolves r :=
  ⟨rfl, rfl, rfl, rfl, rfl, rfl, rfl, fun h => h, fun _ => rfl⟩

theorem trans {r s q : Record} (hrs : r.Evolves s) (hsq : s.Evolves q) : r.Evolves q where
  id := hsq.id.trans hrs.id
  subject := hsq.subject.trans hrs.subject
  family := hsq.family.trans hrs.family
  generation := hsq.generation.trans hrs.generation
  tokenHash := hsq.tokenHash.trans hrs.tokenHash
  expiresAt := hsq.expiresAt.trans hrs.expiresAt
  createdAt := hsq.createdAt.trans hrs.createdAt
  spent := fun h => hsq.spent (hrs.spent h)
  revoked := by
    intro h
    have hs := hrs.revoked h
    rw [hs] at hsq
    exact hsq.revoked h

theorem revoke (r : Record) (now : Instant) (reason : Reason) :
    r.Evolves (r.revoke now reason) := by
  rcases r.revoke_keeps now reason with
    ⟨hid, hsubject, hfamily, hgeneration, hhash, _, hexpires, hcreated, _⟩
  refine ⟨hid, hsubject, hfamily, hgeneration, hhash, hexpires, hcreated, ?_, ?_⟩
  · intro _
    rw [state_revoke]
    intro h
    cases h
  · intro h
    exact revoke_of_revoked h now reason

theorem moveTo {r : Record} (h : r.state = .active) (now : Instant) (state : State)
    (successor : Option RecordId) : r.Evolves (r.moveTo now state successor) := by
  refine ⟨rfl, rfl, rfl, rfl, rfl, rfl, rfl, ?_, ?_⟩
  · intro hne
    exact absurd h hne
  · intro hrevoked
    rw [h] at hrevoked
    cases hrevoked

end Record.Evolves

structure Family.Evolves (f g : Family) : Prop where
  subject : g.subject = f.subject
  records : f.records <+: g.records
  revoked : f.isRevoked = true → g = f

namespace Family.Evolves

theorem refl (f : Family) : f.Evolves f :=
  ⟨rfl, List.prefix_refl _, fun _ => rfl⟩

theorem trans {f g h : Family} (hfg : f.Evolves g) (hgh : g.Evolves h) : f.Evolves h where
  subject := hgh.subject.trans hfg.subject
  records := hfg.records.trans hgh.records
  revoked := by
    intro hf
    have hg := hfg.revoked hf
    rw [hg] at hgh
    exact hgh.revoked hf

theorem withdraw (f : Family) (now : Instant) : f.Evolves (f.withdraw now) :=
  ⟨rfl, List.prefix_refl _, fun h => withdraw_of_isRevoked h now⟩

theorem extend {f : Family} (h : f.isRevoked = false) (id : RecordId) :
    f.Evolves (f.extend id) := by
  refine ⟨rfl, List.prefix_append _ _, ?_⟩
  intro hrevoked
  rw [h] at hrevoked
  cases hrevoked

end Family.Evolves

namespace Table

/-- What may become of a table. -/
structure Evolves (t u : Table) : Prop where
  records : ∀ id r, t.records.get? id = some r → ∃ s, u.records.get? id = some s ∧ r.Evolves s
  hashes : ∀ hash id, t.byHash.get? hash = some id → u.byHash.get? hash = some id
  families : ∀ fam f, t.families.get? fam = some f →
    ∃ g, u.families.get? fam = some g ∧ f.Evolves g

namespace Evolves

theorem refl (t : Table) : t.Evolves t :=
  ⟨fun _ r h => ⟨r, h, Record.Evolves.refl r⟩, fun _ _ h => h,
    fun _ f h => ⟨f, h, Family.Evolves.refl f⟩⟩

theorem trans {t u v : Table} (htu : t.Evolves u) (huv : u.Evolves v) : t.Evolves v where
  records := by
    intro id r hr
    rcases htu.records id r hr with ⟨s, hs, hrs⟩
    rcases huv.records id s hs with ⟨q, hq, hsq⟩
    exact ⟨q, hq, hrs.trans hsq⟩
  hashes := fun hash id h => huv.hashes hash id (htu.hashes hash id h)
  families := by
    intro fam f hf
    rcases htu.families fam f hf with ⟨g, hg, hfg⟩
    rcases huv.families fam g hg with ⟨h, hh, hgh⟩
    exact ⟨h, hh, hfg.trans hgh⟩

theorem added {t : Table} {r : Record} (hfamily : t.families.get? r.family = none)
    (hhash : t.byHash.get? r.tokenHash = none) (hid : t.records.get? r.id = none) :
    t.Evolves (t.withFamily r) where
  records := by
    intro id q hq
    have hne : id ≠ r.id := by
      intro heq
      subst heq
      rw [hid] at hq
      cases hq
    exact ⟨q, by rw [get?_records_withFamily, if_neg hne]; exact hq, Record.Evolves.refl q⟩
  hashes := by
    intro hash id h
    have hne : hash ≠ r.tokenHash := by
      intro heq
      subst heq
      rw [hhash] at h
      cases h
    rw [get?_byHash_withFamily, if_neg hne]
    exact h
  families := by
    intro fam f hf
    have hne : fam ≠ r.family := by
      intro heq
      subst heq
      rw [hfamily] at hf
      cases hf
    exact ⟨f, by rw [get?_families_withFamily, if_neg hne]; exact hf, Family.Evolves.refl f⟩

theorem exchanged {t : Table} {now : Instant} {id : RecordId} {r s : Record}
    (hrecord : t.records.get? id = some r) (hopen : t.isClosed r.family = false)
    (hstate : r.state = .active) (hhash : t.byHash.get? s.tokenHash = none)
    (hid : t.records.get? s.id = none) (hfamily : s.family = r.family) :
    t.Evolves (t.exchanged now id s) where
  records := by
    intro k q hq
    by_cases hk : k = id
    · rw [hk, hrecord] at hq
      cases hq
      rw [hk]
      exact ⟨_, get?_records_exchanged_self hrecord hid, Record.Evolves.moveTo hstate _ _ _⟩
    · have hne : k ≠ s.id := by
        intro heq
        subst heq
        rw [hid] at hq
        cases hq
      exact ⟨q, by rw [get?_records_exchanged_of_ne hk hne]; exact hq, Record.Evolves.refl q⟩
  hashes := by
    intro hash k h
    have hne : hash ≠ s.tokenHash := by
      intro heq
      subst heq
      rw [hhash] at h
      cases h
    rw [get?_byHash_exchanged, if_neg hne]
    exact h
  families := by
    intro fam f hf
    rw [get?_families_exchanged]
    by_cases hfam : fam = s.family
    · rcases isClosed_eq_false.mp hopen with ⟨g, hg, hlive⟩
      rw [hfam, hfamily, hg] at hf
      cases hf
      rw [if_pos hfam, hfam, hfamily, hg]
      exact ⟨_, rfl, Family.Evolves.extend hlive s.id⟩
    · rw [if_neg hfam]
      exact ⟨f, hf, Family.Evolves.refl f⟩

theorem withdrawn (t : Table) (now : Instant) (fam : FamilyId) (reason : Reason) :
    t.Evolves (t.revokeFamily now fam reason).2 where
  records := by
    intro id r hr
    cases hf : t.families.get? fam with
    | none =>
        rw [revokeFamily_of_unknown now fam reason hf]
        exact ⟨r, hr, Record.Evolves.refl r⟩
    | some f =>
        rw [get?_records_revokeFamily now fam reason hf, hr]
        split
        · exact ⟨_, rfl, Record.Evolves.revoke r now reason⟩
        · exact ⟨r, rfl, Record.Evolves.refl r⟩
  hashes := by
    intro hash id h
    rw [byHash_revokeFamily]
    exact h
  families := by
    intro k f hf
    rw [get?_families_revokeFamily, hf]
    split
    · exact ⟨_, rfl, Family.Evolves.withdraw f now⟩
    · exact ⟨f, rfl, Family.Evolves.refl f⟩

theorem change {t u : Table} (h : Change t u) : t.Evolves u := by
  cases h with
  | added hfamily hhash hid _ _ => exact added hfamily hhash hid
  | exchanged hrecord hopen hstate hhash hid hnew =>
      exact exchanged hrecord hopen hstate hhash hid hnew.family
  | withdrawn now fam reason => exact withdrawn t now fam reason

theorem changes {t u : Table} (h : Changes t u) : t.Evolves u := by
  induction h with
  | refl => exact refl t
  | tail _ hchange ih => exact ih.trans (change hchange)

/-! # What stays true -/

variable {t u : Table}

theorem findByHash (h : t.Evolves u) {hash : String} {r : Record}
    (hr : t.findByHash hash = some r) : ∃ s, u.findByHash hash = some s ∧ r.Evolves s := by
  rcases findByHash_eq_some.mp hr with ⟨id, hid, hrecord⟩
  rcases h.records id r hrecord with ⟨s, hs, hrs⟩
  exact ⟨s, findByHash_eq_some.mpr ⟨id, h.hashes hash id hid, hs⟩, hrs⟩

theorem get?_of_revoked (h : t.Evolves u) {id : RecordId} {r : Record}
    (hr : t.records.get? id = some r) (hrevoked : r.state = .revoked) :
    u.records.get? id = some r := by
  rcases h.records id r hr with ⟨s, hs, hrs⟩
  rw [hrs.revoked hrevoked] at hs
  exact hs

theorem families_of_revoked (h : t.Evolves u) {fam : FamilyId} {f : Family}
    (hf : t.families.get? fam = some f) (hrevoked : f.isRevoked = true) :
    u.families.get? fam = some f := by
  rcases h.families fam f hf with ⟨g, hg, hfg⟩
  rw [hfg.revoked hrevoked] at hg
  exact hg

end Evolves

end Table

end Refresh
end SessionAuth
