import SessionAuth.Proofs.Refresh.Locality
import SessionAuth.Proofs.Service.Independence
import SessionAuth.Proofs.Session.Listing

/-!
# Withdrawing all families of a subject

The withdrawal goes through the families of the subject one after the other, in whatever order the
table gives them.  It ends exactly those that are in force, whoever comes first, and leaves nothing
for a second one to do.
-/

namespace SessionAuth

open Time

namespace Refresh

namespace Table

variable {t u : Table} {now : Instant} {reason : Reason} {subject : SubjectId}

/-! # Tables in another order -/

theorem Same.refl (t : Table) : t.Same t :=
  ⟨fun _ => rfl, fun _ => rfl, fun _ => rfl⟩

theorem Same.coherent (h : t.Same u) (ht : t.Coherent) : u.Coherent := by
  constructor
  case indexed =>
      intro hash id
      rw [← h.byHash, ← h.records]
      exact ht.indexed hash id
  case keyed =>
      intro id r hr
      rw [← h.records] at hr
      exact ht.keyed id r hr
  case listed =>
      intro id r hr
      rw [← h.records] at hr
      rw [← h.families]
      exact ht.listed id r hr
  case nodup =>
      intro fam g hg
      rw [← h.families] at hg
      exact ht.nodup fam g hg
  case nonempty =>
      intro fam g hg
      rw [← h.families] at hg
      exact ht.nonempty fam g hg
  case filled =>
      intro fam g k id hg hk
      rw [← h.families] at hg
      rw [← h.records]
      exact ht.filled fam g k id hg hk

theorem Same.liveFamilies_perm (h : t.Same u) (subject : SubjectId) :
    (u.liveFamilies subject).Perm (t.liveFamilies subject) := by
  rw [List.perm_ext_iff_of_nodup (nodup_liveFamilies u subject) (nodup_liveFamilies t subject)]
  intro fam
  rw [mem_liveFamilies, mem_liveFamilies, h.families]

/-! # Ending some families -/

/-- What the end of some families does: all their records are withdrawn, those that were not
withdrawn before for this reason and at this instant.  The other records and families stay as they
were. -/
structure Endings (t u : Table) (ended : List FamilyId) (now : Instant) (reason : Reason) :
    Prop where
  revoked : ∀ id q, u.records.get? id = some q → q.family ∈ ended → q.state = .revoked
  records : ∀ id, u.records.get? id = (t.records.get? id).map (fun q =>
    if q.family ∈ ended ∧ q.state ≠ .revoked then
      { q with state := .revoked, reason := some reason, revokedAt := some now }
    else q)
  families : ∀ k, u.families.get? k = (t.families.get? k).map (fun g =>
    if k ∈ ended then { g with revokedAt := some now } else g)
  index : ∀ hash, u.byHash.get? hash = t.byHash.get? hash

/-- A table with some families withdrawn, in the order in which they are given. -/
def withdrawAll (t : Table) (now : Instant) (reason : Reason) (visited : List FamilyId) : Table :=
  visited.foldl (fun t fam => (t.revokeFamily now fam reason).2) t

theorem revokeSubjectFamilies_eq (t : Table) (now : Instant) (subject : SubjectId)
    (reason : Reason) :
    t.revokeSubjectFamilies now subject reason =
      (t.liveFamilies subject, t.withdrawAll now reason (t.liveFamilies subject)) := rfl

theorem byHash_withdrawAll (t : Table) (now : Instant) (reason : Reason)
    (visited : List FamilyId) : (t.withdrawAll now reason visited).byHash = t.byHash := by
  induction visited generalizing t with
  | nil => rfl
  | cons fam rest ih =>
      calc (t.withdrawAll now reason (fam :: rest)).byHash
        _ = (t.revokeFamily now fam reason).2.byHash := ih _
        _ = t.byHash := byHash_revokeFamily now fam reason

theorem Coherent.withdrawAll (ht : t.Coherent) (now : Instant) (reason : Reason)
    (visited : List FamilyId) : (t.withdrawAll now reason visited).Coherent := by
  induction visited generalizing t with
  | nil => exact ht
  | cons fam rest ih => exact ih (ht.withdrawn now fam reason)

/-- The withdrawal of families that are in force ends them. -/
theorem Coherent.endings (ht : t.Coherent) {visited : List FamilyId}
    (hlive : ∀ fam ∈ visited, ∀ g, t.families.get? fam = some g → g.isRevoked = false)
    (now : Instant) (reason : Reason) :
    Endings t (t.withdrawAll now reason visited) visited now reason where
  revoked := by
    intro id q hq hended
    rw [Table.withdrawAll, ht.get?_records_foldl] at hq
    rcases Option.map_eq_some_iff.mp hq with ⟨r, _, rfl⟩
    split at hended
    case isTrue hmem =>
        rw [if_pos hmem]
        exact r.state_revoke now reason
    case isFalse hmem => exact absurd hended hmem
  records := by
    intro id
    rw [Table.withdrawAll, ht.get?_records_foldl]
    refine congrArg (fun f => (t.records.get? id).map f) (funext fun r => ?_)
    by_cases hmem : r.family ∈ visited
    · by_cases hstate : r.state = .revoked
      · simp [hmem, hstate, Record.revoke_of_revoked hstate]
      · simp [hmem, hstate, Record.revoke_of_not_revoked hstate]
    · simp [hmem]
  families := by
    intro k
    rw [Table.withdrawAll, get?_families_foldl]
    by_cases hmem : k ∈ visited
    · cases hg : t.families.get? k with
      | none => simp
      | some g =>
          have hnone : g.revokedAt = none :=
            Option.not_isSome_iff_eq_none.mp (Bool.eq_false_iff.mp (hlive k hmem g hg))
          simp [hmem, Family.withdraw, hnone]
    · simp [hmem]
  index := by
    intro hash
    rw [byHash_withdrawAll]

/-- The same families come to the same end, in whichever order they and the entries of the table
stand. -/
theorem Endings.same {t' u' : Table} {ended ended' : List FamilyId}
    (h : Endings t u ended now reason) (h' : Endings t' u' ended' now reason) (ht : t.Same t')
    (hmem : ∀ fam, fam ∈ ended' ↔ fam ∈ ended) : u.Same u' where
  records := by
    intro id
    rw [h.records, h'.records, ht.records]
    simp only [hmem]
  byHash := by
    intro hash
    rw [h.index, h'.index, ht.byHash]
  families := by
    intro fam
    rw [h.families, h'.families, ht.families]
    simp only [hmem]

theorem not_revoked_of_mem_liveFamilies {fam : FamilyId} (h : fam ∈ t.liveFamilies subject)
    {g : Family} (hg : t.families.get? fam = some g) : g.isRevoked = false := by
  rcases (mem_liveFamilies fam).mp h with ⟨g', hg', _, hlive⟩
  rw [hg] at hg'
  cases hg'
  exact hlive

/-! # Ending the families of a subject -/

theorem liveFamilies_withdrawn (t : Table) (now : Instant) (subject : SubjectId)
    (reason : Reason) :
    (t.revokeSubjectFamilies now subject reason).2.liveFamilies subject = [] := by
  rw [List.eq_nil_iff_forall_not_mem]
  intro fam hmem
  rcases (mem_liveFamilies fam).mp hmem with ⟨g, hg, hsubject, hlive⟩
  rw [get?_families_revokeSubjectFamilies] at hg
  rcases Option.map_eq_some_iff.mp hg with ⟨g', _, rfl⟩
  split at hlive
  · cases hlive
  case isFalse hother =>
      rw [if_neg hother] at hsubject
      exact hother hsubject

theorem Coherent.not_active (ht : t.Coherent) (hnone : t.liveFamilies subject = [])
    {id : RecordId} {r : Record} (hr : t.records.get? id = some r)
    (hsubject : r.subject = subject) : r.state ≠ .active := by
  intro hactive
  rcases ht.live_of_get? hr (by simp [hactive]) with ⟨g, hg, hlive⟩
  have hmem : r.family ∈ t.liveFamilies subject :=
    (mem_liveFamilies r.family).mpr ⟨g, hg, (ht.subject_eq hg hr rfl).symm.trans hsubject, hlive⟩
  rw [hnone] at hmem
  cases hmem

theorem Coherent.activeRecords_eq_nil (ht : t.Coherent) (hnone : t.liveFamilies subject = []) :
    t.activeRecords subject = [] := by
  rw [List.eq_nil_iff_forall_not_mem]
  intro r hmem
  rcases ht.mem_activeRecords.mp hmem with ⟨hr, hsubject, hactive⟩
  exact ht.not_active hnone hr hsubject hactive

end Table

end Refresh

namespace Service

open Refresh

variable {f : Session.Facade}

/-- In every state that a service comes to, the withdrawal of all families of a subject succeeds.
It gives the families of the subject that were in force, each of them once, and ends them: all their
records are withdrawn, those that were not withdrawn before for the given reason, and nothing else
changes.  No record of the subject is active any more, and a second withdrawal finds nothing to do.
The families may be visited in any order, and the entries of the table may stand in any order: the
families and the contents of the table that result are the same. -/
theorem sweep_exact {s : Service} (hs : Reachable f s) (hd : s.DistinctIds) (now : Instant)
    (subject : SubjectId) (reason : Reason) :
    ∃ families t,
      s.world.store.perform now (.revokeSubjectFamilies subject reason) =
        .ok (families, { s.world.store with tokens := t }) ∧
      families.Nodup ∧
      (∀ fam, fam ∈ families ↔ ∃ g, s.tokens.families.get? fam = some g ∧
        g.subject = subject ∧ g.isRevoked = false) ∧
      Table.Endings s.tokens t families now reason ∧
      (∀ id r, t.records.get? id = some r → r.subject = subject → r.state ≠ .active) ∧
      t.activeRecords subject = [] ∧
      (∀ now' reason', t.revokeSubjectFamilies now' subject reason' = ([], t)) ∧
      (∀ visited : List FamilyId, (∀ fam, fam ∈ visited ↔ fam ∈ families) →
        t.Same (s.tokens.withdrawAll now reason visited)) ∧
      ∀ u, s.tokens.Same u →
        (u.revokeSubjectFamilies now subject reason).1.Perm families ∧
          t.Same (u.revokeSubjectFamilies now subject reason).2 := by
  have ht := (hs.invariant hd).coherent
  have hlive : ∀ fam ∈ s.tokens.liveFamilies subject, ∀ g, s.tokens.families.get? fam = some g →
      g.isRevoked = false := fun _ hmem _ => Table.not_revoked_of_mem_liveFamilies hmem
  have hafter := ht.withdrawAll now reason (s.tokens.liveFamilies subject)
  have hnone := Table.liveFamilies_withdrawn s.tokens now subject reason
  rw [Table.revokeSubjectFamilies_eq] at hnone
  refine ⟨s.tokens.liveFamilies subject, s.tokens.withdrawAll now reason _, rfl,
    Table.nodup_liveFamilies s.tokens subject, ?_, ht.endings hlive now reason, ?_, ?_, ?_, ?_, ?_⟩
  · intro fam
    exact Table.mem_liveFamilies fam
  · intro id r hr hsubject
    exact hafter.not_active hnone hr hsubject
  · exact hafter.activeRecords_eq_nil hnone
  · intro now' reason'
    rw [Table.revokeSubjectFamilies_eq, hnone]
    rfl
  · intro visited hmem
    have hvisited := ht.endings (fun fam hfam => hlive fam ((hmem fam).mp hfam)) now reason
    exact (ht.endings hlive now reason).same hvisited (Table.Same.refl _) hmem
  · intro u hu
    have hperm := hu.liveFamilies_perm subject
    refine ⟨hperm, ?_⟩
    have hlive' : ∀ fam ∈ u.liveFamilies subject, ∀ g, u.families.get? fam = some g →
        g.isRevoked = false := fun _ hmem _ => Table.not_revoked_of_mem_liveFamilies hmem
    exact (ht.endings hlive now reason).same ((hu.coherent ht).endings hlive' now reason) hu
      (fun _ => hperm.mem_iff)

/-- Both sessions of a subject are ended at once. -/
theorem sweep_exact_sessions :
    Reachable Sample.facade Sample.sessions ∧ Sample.sessions.DistinctIds ∧
      ∃ families t, families.length = 2 ∧
        Sample.sessions.world.store.perform .epoch
          (.revokeSubjectFamilies Sample.subject.id .passwordChange) =
            .ok (families, { Sample.sessions.world.store with tokens := t }) ∧
        Table.Endings Sample.sessions.tokens t families .epoch .passwordChange ∧
        t.activeRecords Sample.subject.id = [] := by
  have hs : Reachable Sample.facade Sample.sessions :=
    ⟨Sample.world, Sample.fresh_world, Sample.reaches_sessions⟩
  have hobserved : Sample.sessions.world.drawn.ids ≤ Nat.pow 256 16 ∧
      (Sample.sessions.tokens.liveFamilies Sample.subject.id).length = 2 := by decide +kernel
  have hd : Sample.sessions.DistinctIds :=
    Sample.distinctIds_of_supply
      (congrArg Supply.ids (Reaches.supply_eq Sample.reaches_sessions)) hobserved.left
  rcases sweep_exact hs hd .epoch Sample.subject.id .passwordChange with
    ⟨families, t, hperform, hnodup, hmem, hendings, _, hactive, _⟩
  have hperm : families.Perm (Sample.sessions.tokens.liveFamilies Sample.subject.id) := by
    rw [List.perm_ext_iff_of_nodup hnodup (Table.nodup_liveFamilies _ _)]
    intro fam
    rw [hmem fam, Table.mem_liveFamilies]
  exact ⟨hs, hd, families, t, hperm.length_eq.trans hobserved.right, hperform, hendings, hactive⟩

end Service

end SessionAuth
