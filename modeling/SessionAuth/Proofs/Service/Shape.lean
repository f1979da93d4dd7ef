import Mathlib.Data.List.Nodup
import SessionAuth.Proofs.Service.Alone
import SessionAuth.Proofs.Service.Invariant

/-!
# The shape of the table

However many requests are in flight, the table of refresh records always consists of families that
are chains.  A chain that is in force ends with its one active record.
-/

namespace SessionAuth

open Time Refresh

namespace Refresh.Table

/-! # Chains -/

/-- A family whose records are numbered in the order of their issue, each but the last replaced by
the next. -/
def Chain (t : Table) (fam : FamilyId) (g : Family) : Prop :=
  g.records ≠ [] ∧ ∀ (k : Nat) id, g.records[k]? = some id →
    ∃ r, t.records.get? id = some r ∧ r.family = fam ∧ r.subject = g.subject ∧
      r.generation = k ∧ r.replacedBy = g.records[k + 1]? ∧
      r.consumedAt.isSome = decide (k + 1 < g.records.length)

/-- The state of every record of a family, by its distance from the end. -/
def States (t : Table) (g : Family) (last before : State) : Prop :=
  ∀ (k : Nat) id, g.records[k]? = some id → ∃ r, t.records.get? id = some r ∧
    r.state = if k + 1 = g.records.length then last else before

namespace Coherent

variable {t : Table} (ht : t.Coherent) {fam : FamilyId} {g : Family}
include ht

theorem chain (hg : t.families.get? fam = some g) : t.Chain fam g := by
  refine ⟨ht.nonempty fam g hg, ?_⟩
  intro k id hk
  rcases ht.filled fam g k id hg hk with ⟨r, hr, hfills⟩
  exact ⟨r, hr, hfills.family, hfills.subject, hfills.generation, hfills.replacedBy,
    hfills.consumedAt⟩

theorem states_of_live (hg : t.families.get? fam = some g) (hlive : g.isRevoked = false) :
    t.States g .active .consumed := by
  intro k id hk
  rcases ht.filled fam g k id hg hk with ⟨r, hr, hfills⟩
  rcases List.getElem?_eq_some_iff.mp hk with ⟨hlt, _⟩
  refine ⟨r, hr, ?_⟩
  rw [hfills.state]
  unfold Family.stateAt
  rw [hlive, if_neg Bool.false_ne_true]
  by_cases hlast : k + 1 = g.records.length
  · rw [if_pos hlast, if_neg (by omega)]
  · rw [if_neg hlast, if_pos (by omega)]

theorem states_of_revoked (hg : t.families.get? fam = some g) (hrevoked : g.isRevoked = true) :
    t.States g .revoked .revoked := by
  intro k id hk
  rcases ht.filled fam g k id hg hk with ⟨r, hr, hfills⟩
  refine ⟨r, hr, ?_⟩
  rw [hfills.state]
  unfold Family.stateAt
  rw [if_pos hrevoked, ite_self]

theorem revocation_of_get? {id : RecordId} {r : Record} (hr : t.records.get? id = some r) :
    (r.revokedAt.isSome = decide (r.state = .revoked)) ∧
      r.reason.isSome = decide (r.state = .revoked) := by
  rcases ht.exists_place hr with ⟨g, k, hg, _, hfills⟩
  have hiff := ht.revoked_iff hg hr rfl
  rw [hfills.revokedAt, hfills.reason]
  cases hrevoked : g.isRevoked with
  | true =>
      have hstate := hiff.mpr hrevoked
      simp [hstate]
  | false =>
      have hstate : r.state ≠ .revoked := by
        intro h
        rw [hiff.mp h] at hrevoked
        cases hrevoked
      simp [hstate]

theorem count_eq_one {id : RecordId} {r : Record} (hr : t.records.get? id = some r) :
    ∃ g, t.families.get? r.family = some g ∧ g.subject = r.subject ∧ g.records.count id = 1 := by
  rcases ht.listed id r hr with ⟨g, hg, hmem⟩
  refine ⟨g, hg, (ht.subject_eq hg hr rfl).symm, ?_⟩
  exact List.count_eq_one_of_mem (ht.nodup _ g hg) hmem

theorem hash_injective {hash hash' : String} {id : RecordId}
    (h : t.byHash.get? hash = some id) (h' : t.byHash.get? hash' = some id) : hash = hash' := by
  rcases (ht.indexed hash id).mp h with ⟨r, hr, rfl⟩
  rcases (ht.indexed hash' id).mp h' with ⟨r', hr', rfl⟩
  rw [hr] at hr'
  cases hr'
  rfl

end Coherent

end Refresh.Table

namespace Service

variable {f : Session.Facade}

/-! # Every reachable state -/

/-- In every state that a service comes to from an empty table, whatever requests are in flight:
the index has the hash of each record and nothing else; each record is listed once, by its own
family; each family is a chain; the chains in force end with an active record after exchanged
ones, and the records of the others are all withdrawn. -/
theorem table_shape {s : Service} (hs : Reachable f s) (hd : s.DistinctIds) :
    (∀ hash id, s.tokens.byHash.get? hash = some id ↔
      ∃ r, s.tokens.records.get? id = some r ∧ r.id = id ∧ r.tokenHash = hash) ∧
    (∀ hash hash' id, s.tokens.byHash.get? hash = some id →
      s.tokens.byHash.get? hash' = some id → hash = hash') ∧
    (∀ id r, s.tokens.records.get? id = some r →
      (∃ g, s.tokens.families.get? r.family = some g ∧ g.subject = r.subject ∧
        g.records.count id = 1) ∧
      ∀ fam g, s.tokens.families.get? fam = some g → id ∈ g.records → fam = r.family) ∧
    (∀ fam g, s.tokens.families.get? fam = some g → s.tokens.Chain fam g) ∧
    (∀ fam g, s.tokens.families.get? fam = some g → g.isRevoked = false →
      s.tokens.States g .active .consumed) ∧
    (∀ fam g, s.tokens.families.get? fam = some g → g.isRevoked = true →
      s.tokens.States g .revoked .revoked) ∧
    (∀ id r, s.tokens.records.get? id = some r →
      r.revokedAt.isSome = decide (r.state = .revoked) ∧
        r.reason.isSome = decide (r.state = .revoked)) := by
  have ht := (hs.invariant hd).coherent
  refine ⟨?_, ?_, ?_, ?_, ?_, ?_, ?_⟩
  · intro hash id
    rw [ht.indexed hash id]
    constructor
    · intro hx
      rcases hx with ⟨r, hr, hhash⟩
      exact ⟨r, hr, ht.keyed id r hr, hhash⟩
    · intro hx
      rcases hx with ⟨r, hr, _, hhash⟩
      exact ⟨r, hr, hhash⟩
  · intro hash hash' id h h'
    exact ht.hash_injective h h'
  · intro id r hr
    refine ⟨ht.count_eq_one hr, ?_⟩
    intro fam g hg hmem
    exact (ht.family_of_mem hg hmem hr).symm
  · intro fam g hg
    exact ht.chain hg
  · intro fam g hg hlive
    exact ht.states_of_live hg hlive
  · intro fam g hg hrevoked
    exact ht.states_of_revoked hg hrevoked
  · intro id r hr
    exact ht.revocation_of_get? hr

def Sample.rotated : Service :=
  Sample.underway.run Sample.facade
    (List.replicate 13 (.advance 0) ++
      .start (.refresh Sample.secret) :: List.replicate 16 (.advance 2))

theorem Sample.distinctIds_rotated : Sample.rotated.DistinctIds :=
  Sample.distinctIds_run (by decide +kernel)

/-- A session that has been refreshed once is a chain of two records. -/
theorem table_shape_rotated :
    Reachable Sample.facade Sample.rotated ∧ Sample.rotated.DistinctIds ∧
      ∃ g, Sample.rotated.tokens.families.get? Sample.family = some g ∧ g.records.length = 2 ∧
        Sample.rotated.tokens.Chain Sample.family g ∧
        Sample.rotated.tokens.States g .active .consumed := by
  have hs : Reachable Sample.facade Sample.rotated := Sample.reachable_run _
  have hd := Sample.distinctIds_rotated
  have hfamily : (Sample.rotated.tokens.families.get? Sample.family).any
      (fun g => g.records.length == 2 && !g.isRevoked) = true := by decide +kernel
  rcases (Option.any_eq_true _ _).mp hfamily with ⟨g, hg, hshape⟩
  rw [Bool.and_eq_true, beq_iff_eq, Bool.not_eq_true'] at hshape
  rcases table_shape hs hd with ⟨_, _, _, hchain, hlive, _, _⟩
  exact ⟨hs, hd, g, hg, hshape.left, hchain _ g hg, hlive _ g hg hshape.right⟩

end Service

end SessionAuth
