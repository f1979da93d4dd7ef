import SessionAuth.Proofs.Refresh.Effects

/-!
# What a change of one family touches

Whatever happens to one family has to do with its records, with the hash of the secret that was
presented, and with the places of the records that are new.  Tables that agree there change alike,
and nothing else changes.
-/

namespace SessionAuth
namespace Refresh

open Time

namespace Table

/-- Tables with the same contents.  Their keys may have come in another order. -/
structure Same (t u : Table) : Prop where
  records : ∀ id, t.records.get? id = u.records.get? id
  byHash : ∀ hash, t.byHash.get? hash = u.byHash.get? hash
  families : ∀ fam, t.families.get? fam = u.families.get? fam

def Owns (t : Table) (fam : FamilyId) : Prop :=
  ∀ g id, t.families.get? fam = some g → id ∈ g.records →
    ∃ r, t.records.get? id = some r ∧ r.family = fam

theorem Coherent.owns {t : Table} (ht : t.Coherent) (fam : FamilyId) : t.Owns fam := by
  intro g id hg hmem
  rcases List.mem_iff_getElem?.mp hmem with ⟨k, hk⟩
  rcases ht.filled fam g k id hg hk with ⟨r, hr, hfills⟩
  exact ⟨r, hr, hfills.family⟩

end Table

/-- A family, the hash under which one of its records is looked up, and the identifiers and hashes
that new records of it may have. -/
structure Scope where
  family : FamilyId
  presented : String
  ids : RecordId → Prop
  hashes : String → Prop

namespace Scope

/-- Tables that are the same as far as a scope goes. -/
structure Agree (σ : Scope) (t u : Table) : Prop where
  family : t.families.get? σ.family = u.families.get? σ.family
  records : ∀ id r, r.family = σ.family →
    (t.records.get? id = some r ↔ u.records.get? id = some r)
  places : ∀ id, σ.ids id → t.records.get? id = u.records.get? id
  presented : t.byHash.get? σ.presented = u.byHash.get? σ.presented
  index : ∀ hash, σ.hashes hash → t.byHash.get? hash = u.byHash.get? hash

/-- Tables that are the same beyond a scope. -/
structure Confined (σ : Scope) (t u : Table) : Prop where
  families : ∀ fam, fam ≠ σ.family → t.families.get? fam = u.families.get? fam
  records : ∀ id r, r.family ≠ σ.family →
    (t.records.get? id = some r ↔ u.records.get? id = some r)
  places : ∀ id, ¬ σ.ids id → t.records.get? id = none → u.records.get? id = none
  index : ∀ hash, ¬ σ.hashes hash → t.byHash.get? hash = u.byHash.get? hash

structure Allows (σ : Scope) (t : Table) (r s : Record) : Prop where
  presented : t.records.get? r.id = some r
  family : r.family = σ.family
  successor : s.family = σ.family
  place : σ.ids s.id
  hash : σ.hashes s.tokenHash
  unused : t.records.get? s.id = none

variable {σ : Scope} {t u v : Table}

theorem Agree.owns (h : σ.Agree t u) (ht : t.Owns σ.family) : u.Owns σ.family := by
  intro g id hg hmem
  rw [← h.family] at hg
  rcases ht g id hg hmem with ⟨r, hr, hfamily⟩
  exact ⟨r, (h.records id r hfamily).mp hr, hfamily⟩

theorem Agree.allows (h : σ.Agree t u) {r s : Record} (ha : σ.Allows t r s) :
    σ.Allows u r s where
  presented := (h.records r.id r ha.family).mp ha.presented
  family := ha.family
  successor := ha.successor
  place := ha.place
  hash := ha.hash
  unused := (h.places s.id ha.place).symm.trans ha.unused

theorem Confined.refl (σ : Scope) (t : Table) : σ.Confined t t where
  families := fun _ _ => rfl
  records := fun _ _ _ => Iff.rfl
  places := fun _ _ h => h
  index := fun _ _ => rfl

theorem Confined.trans (h : σ.Confined t u) (h' : σ.Confined u v) : σ.Confined t v where
  families := fun fam hfam => (h.families fam hfam).trans (h'.families fam hfam)
  records := fun id r hr => (h.records id r hr).trans (h'.records id r hr)
  places := fun id hid hnone => h'.places id hid (h.places id hid hnone)
  index := fun hash hhash => (h.index hash hhash).trans (h'.index hash hhash)

/-! # Two scopes -/

/-- Changes within one scope are out of sight of another one. -/
theorem Confined.agree {τ : Scope} (h : τ.Confined t u) (hfamily : σ.family ≠ τ.family)
    (hids : ∀ id, σ.ids id → ¬ τ.ids id ∧ t.records.get? id = none)
    (hpresented : ¬ τ.hashes σ.presented) (hhashes : ∀ hash, σ.hashes hash → ¬ τ.hashes hash) :
    σ.Agree t u where
  family := h.families σ.family hfamily
  records := fun id r hr => h.records id r (fun heq => hfamily (hr.symm.trans heq))
  places := by
    intro id hid
    rcases hids id hid with ⟨hother, hnone⟩
    rw [hnone, h.places id hother hnone]
  presented := h.index σ.presented hpresented
  index := fun hash hhash => h.index hash (hhashes hash hhash)

/-- Two tables that come from one by changes within two scopes, made in either order, are the
same. -/
theorem same_of_confined {τ : Scope} {t t₁ t₂ t₁₂ t₂₁ : Table} (hfamily : σ.family ≠ τ.family)
    (hhashes : ∀ hash, σ.hashes hash → ¬ τ.hashes hash)
    (h₁ : σ.Confined t t₁) (h₁₂ : τ.Confined t₁ t₁₂) (h₂ : τ.Confined t t₂)
    (h₂₁ : σ.Confined t₂ t₂₁) (hσ : σ.Agree t₁ t₂₁) (hτ : τ.Agree t₂ t₁₂) : t₁₂.Same t₂₁ where
  records := by
    intro id
    apply Option.ext
    intro r
    by_cases hr : r.family = σ.family
    · have hother : r.family ≠ τ.family := fun heq => hfamily (hr.symm.trans heq)
      exact (h₁₂.records id r hother).symm.trans (hσ.records id r hr)
    · by_cases hr' : r.family = τ.family
      · exact (hτ.records id r hr').symm.trans (h₂₁.records id r hr)
      · -- Neither change has to do with a record of a third family.
        calc t₁₂.records.get? id = some r
          _ ↔ t₁.records.get? id = some r := (h₁₂.records id r hr').symm
          _ ↔ t.records.get? id = some r := (h₁.records id r hr).symm
          _ ↔ t₂.records.get? id = some r := h₂.records id r hr'
          _ ↔ t₂₁.records.get? id = some r := h₂₁.records id r hr
  byHash := by
    intro hash
    by_cases hhash : σ.hashes hash
    · exact (h₁₂.index hash (hhashes hash hhash)).symm.trans (hσ.index hash hhash)
    · by_cases hhash' : τ.hashes hash
      · exact (hτ.index hash hhash').symm.trans (h₂₁.index hash hhash)
      · calc t₁₂.byHash.get? hash
          _ = t₁.byHash.get? hash := (h₁₂.index hash hhash').symm
          _ = t.byHash.get? hash := (h₁.index hash hhash).symm
          _ = t₂.byHash.get? hash := h₂.index hash hhash'
          _ = t₂₁.byHash.get? hash := h₂₁.index hash hhash
  families := by
    intro fam
    by_cases hfam : fam = σ.family
    · subst hfam
      exact (h₁₂.families σ.family hfamily).symm.trans hσ.family
    · by_cases hfam' : fam = τ.family
      · subst hfam'
        exact hτ.family.symm.trans (h₂₁.families τ.family hfam)
      · calc t₁₂.families.get? fam
          _ = t₁.families.get? fam := (h₁₂.families fam hfam').symm
          _ = t.families.get? fam := (h₁.families fam hfam).symm
          _ = t₂.families.get? fam := h₂.families fam hfam'
          _ = t₂₁.families.get? fam := h₂₁.families fam hfam

/-! # Looking up -/

theorem Agree.findByHash (h : σ.Agree t u) {r : Record}
    (hfound : t.findByHash σ.presented = some r) (hfamily : r.family = σ.family) :
    u.findByHash σ.presented = some r := by
  rcases Table.findByHash_eq_some.mp hfound with ⟨id, hid, hr⟩
  rw [h.presented] at hid
  exact Table.findByHash_eq_some.mpr ⟨id, hid, (h.records id r hfamily).mp hr⟩

theorem Agree.isClosed (h : σ.Agree t u) : t.isClosed σ.family = u.isClosed σ.family := by
  unfold Table.isClosed
  rw [h.family]

/-! # Withdrawing -/

section Withdrawing

variable (now : Instant) (reason : Reason)

theorem get?_records_withdrawn {g : Family} (hg : t.families.get? σ.family = some g)
    (id : RecordId) :
    (t.revokeFamily now σ.family reason).2.records.get? id =
      if id ∈ g.records then (t.records.get? id).map (fun r => r.revoke now reason)
      else t.records.get? id :=
  Table.get?_records_revokeFamily now σ.family reason hg id

theorem owns_revokeFamily (ht : t.Owns σ.family) :
    (t.revokeFamily now σ.family reason).2.Owns σ.family := by
  cases hg : t.families.get? σ.family with
  | none =>
      rw [Table.revokeFamily_of_unknown now σ.family reason hg]
      exact ht
  | some g =>
      intro g' id hg' hmem
      rw [Table.get?_families_revokeFamily, if_pos rfl, hg, Option.map_some] at hg'
      cases hg'
      have hlisted : id ∈ g.records := hmem
      rcases ht g id hg hlisted with ⟨r, hr, hfamily⟩
      refine ⟨r.revoke now reason, ?_, (r.revoke_keeps now reason).2.2.1.trans hfamily⟩
      rw [get?_records_withdrawn now reason hg, if_pos hlisted, hr]
      rfl

theorem confined_revokeFamily (ht : t.Owns σ.family) :
    σ.Confined t (t.revokeFamily now σ.family reason).2 := by
  cases hg : t.families.get? σ.family with
  | none =>
      rw [Table.revokeFamily_of_unknown now σ.family reason hg]
      exact Confined.refl σ t
  | some g =>
      constructor
      · intro fam hfam
        rw [Table.get?_families_revokeFamily, if_neg hfam]
      · intro id r hother
        rw [get?_records_withdrawn now reason hg]
        by_cases hmem : id ∈ g.records
        · -- A listed record belongs to the family, before and after.
          rcases ht g id hg hmem with ⟨q, hq, hfamily⟩
          have hkept := (q.revoke_keeps now reason).2.2.1.trans hfamily
          rw [if_pos hmem, hq, Option.map_some]
          constructor
          · intro h
            cases h
            exact absurd hfamily hother
          · intro h
            cases h
            exact absurd hkept hother
        · rw [if_neg hmem]
      · intro id _ hnone
        rw [get?_records_withdrawn now reason hg, hnone]
        simp
      · intro hash _
        rw [Table.byHash_revokeFamily]

theorem revokeRecords_congr {ids : List RecordId} {xs ys : Registry RecordId Record}
    (h : ∀ id ∈ ids, xs.get? id = ys.get? id) :
    (Table.revokeRecords now reason ids xs).1 = (Table.revokeRecords now reason ids ys).1 := by
  induction ids generalizing xs ys with
  | nil => rfl
  | cons id ids ih =>
      have hhead := h id List.mem_cons_self
      have hrest : ∀ k ∈ ids, (xs.modify id (fun r => r.revoke now reason)).get? k =
          (ys.modify id (fun r => r.revoke now reason)).get? k := by
        intro k hk
        rw [Registry.get?_modify, Registry.get?_modify, h k (List.mem_cons_of_mem id hk)]
      simp only [Table.revokeRecords, hhead, ih hrest]

theorem Agree.revokeFamily (h : σ.Agree t u) (ht : t.Owns σ.family) :
    (t.revokeFamily now σ.family reason).1 = (u.revokeFamily now σ.family reason).1 ∧
      σ.Agree (t.revokeFamily now σ.family reason).2 (u.revokeFamily now σ.family reason).2 := by
  cases hg : t.families.get? σ.family with
  | none =>
      have hg' := h.family.symm.trans hg
      rw [Table.revokeFamily_of_unknown now σ.family reason hg,
        Table.revokeFamily_of_unknown now σ.family reason hg']
      exact ⟨rfl, h⟩
  | some g =>
      have hg' := h.family.symm.trans hg
      have hlisted : ∀ id ∈ g.records, t.records.get? id = u.records.get? id := by
        intro id hmem
        rcases ht g id hg hmem with ⟨r, hr, hfamily⟩
        rw [hr, (h.records id r hfamily).mp hr]
      constructor
      · unfold Table.revokeFamily
        rw [hg, hg']
        exact revokeRecords_congr now reason hlisted
      · constructor
        · rw [Table.get?_families_revokeFamily, Table.get?_families_revokeFamily, h.family]
        · intro id r hfamily
          rw [get?_records_withdrawn now reason hg, get?_records_withdrawn now reason hg']
          by_cases hmem : id ∈ g.records
          · rw [if_pos hmem, if_pos hmem, hlisted id hmem]
          · rw [if_neg hmem, if_neg hmem]
            exact h.records id r hfamily
        · intro id hid
          rw [get?_records_withdrawn now reason hg, get?_records_withdrawn now reason hg',
            h.places id hid]
        · rw [Table.byHash_revokeFamily, Table.byHash_revokeFamily]
          exact h.presented
        · rw [Table.byHash_revokeFamily, Table.byHash_revokeFamily]
          exact h.index

end Withdrawing

/-! # Exchanging -/

section Exchanging

variable (now : Instant) {r s : Record}

theorem owns_exchanged (ha : σ.Allows t r s) (ht : t.Owns σ.family) :
    (t.exchanged now r.id s).Owns σ.family := by
  intro g id hg hmem
  rw [Table.get?_families_exchanged, if_pos ha.successor.symm, Option.map_eq_some_iff] at hg
  rcases hg with ⟨g', hg', rfl⟩
  rcases List.mem_append.mp hmem with hold | hnew
  · rcases ht g' id hg' hold with ⟨q, hq, hfamily⟩
    by_cases hid : id = r.id
    · subst hid
      exact ⟨_, Table.get?_records_exchanged_self ha.presented ha.unused, ha.family⟩
    · have hne : id ≠ s.id := by
        intro heq
        rw [heq, ha.unused] at hq
        cases hq
      exact ⟨q, (Table.get?_records_exchanged_of_ne hid hne).trans hq, hfamily⟩
  · rw [List.mem_singleton.mp hnew]
    exact ⟨s, Table.get?_records_exchanged_successor ha.presented ha.unused, ha.successor⟩

theorem confined_exchanged (ha : σ.Allows t r s) : σ.Confined t (t.exchanged now r.id s) := by
  constructor
  · intro fam hfam
    rw [Table.get?_families_exchanged, if_neg]
    exact fun heq => hfam (heq.trans ha.successor)
  · intro id q hother
    constructor
    · intro hq
      have hid : id ≠ r.id := by
        intro heq
        rw [heq, ha.presented] at hq
        cases hq
        exact hother ha.family
      have hne : id ≠ s.id := by
        intro heq
        rw [heq, ha.unused] at hq
        cases hq
      exact (Table.get?_records_exchanged_of_ne hid hne).trans hq
    · intro hq
      -- The old record, its successor, and whatever was there before.
      rcases Table.get?_records_exchanged_cases ha.presented ha.unused hq with
        ⟨_, rfl⟩ | ⟨_, rfl⟩ | ⟨_, _, hold⟩
      · exact absurd ha.family hother
      · exact absurd ha.successor hother
      · exact hold
  · intro id hid hnone
    have hne : id ≠ r.id := by
      intro heq
      rw [heq, ha.presented] at hnone
      cases hnone
    have hne' : id ≠ s.id := fun heq => hid (heq ▸ ha.place)
    exact (Table.get?_records_exchanged_of_ne hne hne').trans hnone
  · intro hash hhash
    rw [Table.get?_byHash_exchanged, if_neg]
    exact fun heq => hhash (heq ▸ ha.hash)

theorem Agree.exchanged (h : σ.Agree t u) (ha : σ.Allows t r s) :
    σ.Agree (t.exchanged now r.id s) (u.exchanged now r.id s) := by
  have ha' := h.allows ha
  have hplace : ∀ id, (id = r.id ∨ id = s.id ∨ t.records.get? id = u.records.get? id) →
      (t.exchanged now r.id s).records.get? id = (u.exchanged now r.id s).records.get? id := by
    intro id hid
    by_cases hpresented : id = r.id
    · rw [hpresented, Table.get?_records_exchanged_self ha.presented ha.unused,
        Table.get?_records_exchanged_self ha'.presented ha'.unused]
    · by_cases hnew : id = s.id
      · rw [hnew, Table.get?_records_exchanged_successor ha.presented ha.unused,
          Table.get?_records_exchanged_successor ha'.presented ha'.unused]
      · rw [Table.get?_records_exchanged_of_ne hpresented hnew,
          Table.get?_records_exchanged_of_ne hpresented hnew]
        exact (hid.resolve_left hpresented).resolve_left hnew
  constructor
  · rw [Table.get?_families_exchanged, Table.get?_families_exchanged, h.family]
  · intro id q hfamily
    by_cases hid : id = r.id ∨ id = s.id
    · rw [hplace id (hid.elim Or.inl (fun hnew => Or.inr (Or.inl hnew)))]
    · rcases not_or.mp hid with ⟨hpresented, hnew⟩
      rw [Table.get?_records_exchanged_of_ne hpresented hnew,
        Table.get?_records_exchanged_of_ne hpresented hnew]
      exact h.records id q hfamily
  · intro id hid
    exact hplace id (Or.inr (Or.inr (h.places id hid)))
  · rw [Table.get?_byHash_exchanged, Table.get?_byHash_exchanged, h.presented]
  · intro hash hhash
    rw [Table.get?_byHash_exchanged, Table.get?_byHash_exchanged, h.index hash hhash]

theorem transition_eq (ha : σ.Allows t r s) :
    t.transition now r.id .active .consumed (some s) =
      if t.isClosed σ.family then .ok (.familyRevoked, t)
      else if r.state ≠ .active then .ok (.stateMismatch r.state, t)
      else if t.byHash.contains s.tokenHash then .error .hashAlreadyStored
      else .ok (.applied, t.exchanged now r.id s) := by
  have hfamily : s.family = r.family := ha.successor.trans ha.family.symm
  unfold Table.transition
  rw [ha.presented, ← ha.family]
  dsimp only
  split
  · rfl
  · split
    · rfl
    · unfold Table.pushSuccessor Table.push Table.exchanged
      rw [if_neg (fun hne => hne hfamily), hfamily]
      split <;> rfl

/-- Tables that agree decide alike on an exchange. -/
theorem Agree.transition (h : σ.Agree t u) (ha : σ.Allows t r s) :
    (∃ e, t.transition now r.id .active .consumed (some s) = .error e ∧
      u.transition now r.id .active .consumed (some s) = .error e) ∨
    (∃ o, t.transition now r.id .active .consumed (some s) = .ok (o, t) ∧
      u.transition now r.id .active .consumed (some s) = .ok (o, u)) ∨
    (t.transition now r.id .active .consumed (some s) = .ok (.applied, t.exchanged now r.id s) ∧
      u.transition now r.id .active .consumed (some s) =
        .ok (.applied, u.exchanged now r.id s)) := by
  have hcontains : u.byHash.contains s.tokenHash = t.byHash.contains s.tokenHash := by
    unfold Registry.contains
    rw [h.index s.tokenHash ha.hash]
  rw [transition_eq now ha, transition_eq now (h.allows ha), ← h.isClosed, hcontains]
  split
  · exact Or.inr (Or.inl ⟨_, rfl, rfl⟩)
  · split
    · exact Or.inr (Or.inl ⟨_, rfl, rfl⟩)
    · split
      · exact Or.inl ⟨_, rfl, rfl⟩
      · exact Or.inr (Or.inr ⟨rfl, rfl⟩)

end Exchanging

end Scope

end Refresh

end SessionAuth
