import Mathlib.Data.List.Nodup
import SessionAuth.Proofs.Refresh.Coherence

/-!
# The effects of single changes

In a coherent table the withdrawal of a family in force changes the records of that family and
nothing else, and the exchange of an active record changes that record, adds its successor and
leaves everything else as it was.
-/

namespace SessionAuth
namespace Refresh

open Time

namespace Table

/-! # Withdrawing -/

/-- What the withdrawal of a family does: all its records are withdrawn for the same reason and at
the same instant.  The other records and families stay as they were. -/
structure Withdrawal (t u : Table) (fam : FamilyId) (now : Instant) (reason : Reason) : Prop where
  records : ∀ id, u.records.get? id = (t.records.get? id).map (fun r =>
    if r.family = fam then
      { r with state := .revoked, reason := some reason, revokedAt := some now }
    else r)
  families : ∀ k, u.families.get? k = (t.families.get? k).map (fun g =>
    if k = fam then { g with revokedAt := some now } else g)
  index : ∀ hash, u.byHash.get? hash = t.byHash.get? hash

def differing (t u : Table) : Nat :=
  (t.records.entries.filter (fun e => decide (u.records.get? e.1 ≠ some e.2))).length

theorem Coherent.live_of_get? {t : Table} (ht : t.Coherent) {id : RecordId} {r : Record}
    (hr : t.records.get? id = some r) (hstate : r.state ≠ .revoked) :
    ∃ g, t.families.get? r.family = some g ∧ g.isRevoked = false := by
  rcases ht.listed id r hr with ⟨g, hg, _⟩
  refine ⟨g, hg, ?_⟩
  cases hrevoked : g.isRevoked with
  | false => rfl
  | true => exact absurd ((ht.revoked_iff hg hr rfl).mpr hrevoked) hstate

theorem Coherent.withdrawal {t : Table} (ht : t.Coherent) {fam : FamilyId} {g : Family}
    (hg : t.families.get? fam = some g) (hlive : g.isRevoked = false) (now : Instant)
    (reason : Reason) : Withdrawal t (t.revokeFamily now fam reason).2 fam now reason where
  records := by
    intro id
    rw [get?_records_revokeFamily now fam reason hg]
    cases hr : t.records.get? id with
    | none => simp
    | some r =>
        by_cases hfamily : r.family = fam
        · rcases ht.listed id r hr with ⟨g', hg', hmem⟩
          rw [hfamily, hg] at hg'
          cases hg'
          have hstate : r.state ≠ .revoked := by
            intro h
            rw [(ht.revoked_iff hg hr hfamily).mp h] at hlive
            cases hlive
          simp [hmem, hfamily, Record.revoke_of_not_revoked hstate]
        · have hnot : id ∉ g.records := fun hmem => hfamily (ht.family_of_mem hg hmem hr)
          simp [hnot, hfamily]
  families := by
    intro k
    rw [get?_families_revokeFamily]
    by_cases hk : k = fam
    · rw [hk, hg]
      have hnone : g.revokedAt = none := by
        rw [← Option.not_isSome_iff_eq_none]
        exact Bool.eq_false_iff.mp hlive
      simp [Family.withdraw, hnone]
    · simp [hk]
  index := by
    intro hash
    rw [byHash_revokeFamily]

theorem revokeRecords_fst (now : Instant) (reason : Reason) {ids : List RecordId}
    (hnodup : ids.Nodup) (records : Registry RecordId Record) :
    (revokeRecords now reason ids records).1 =
      (ids.filter (fun id => (records.get? id).any (fun r => r.state != .revoked))).length := by
  induction ids generalizing records with
  | nil => rfl
  | cons id ids ih =>
      rcases List.nodup_cons.mp hnodup with ⟨hnot, hrest⟩
      have hsame : ids.filter (fun k =>
          ((records.modify id (fun r => r.revoke now reason)).get? k).any
            (fun r => r.state != .revoked)) =
          ids.filter (fun k => (records.get? k).any (fun r => r.state != .revoked)) := by
        apply List.filter_congr
        intro k hk
        rw [Registry.get?_modify, if_neg]
        intro heq
        exact hnot (heq ▸ hk)
      simp only [revokeRecords, ih hrest, hsame, List.filter_cons]
      split <;> simp

/-- A table whose records are listed in their own families and nowhere else. -/
structure Placed (t : Table) : Prop where
  listed : ∀ id r, t.records.get? id = some r →
    ∃ f, t.families.get? r.family = some f ∧ id ∈ f.records
  family_of_mem : ∀ fam f id r, t.families.get? fam = some f → id ∈ f.records →
    t.records.get? id = some r → r.family = fam

theorem Coherent.placed {t : Table} (ht : t.Coherent) : t.Placed :=
  ⟨ht.listed, fun _ _ _ _ hf hmem hr => ht.family_of_mem hf hmem hr⟩

theorem Placed.get?_records_withdrawn {t : Table} (ht : t.Placed) (now : Instant)
    (fam : FamilyId) (reason : Reason) (id : RecordId) :
    (t.revokeFamily now fam reason).2.records.get? id = (t.records.get? id).map (fun r =>
      if r.family = fam then r.revoke now reason else r) := by
  cases hr : t.records.get? id with
  | none =>
      cases hg : t.families.get? fam with
      | none =>
          rw [revokeFamily_of_unknown now fam reason hg, hr]
          rfl
      | some g =>
          rw [get?_records_revokeFamily now fam reason hg, hr]
          simp
  | some r =>
      rcases ht.listed id r hr with ⟨g', hg', hmem'⟩
      by_cases hfamily : r.family = fam
      · rw [hfamily] at hg'
        rw [get?_records_revokeFamily now fam reason hg', if_pos hmem', hr, Option.map_some,
          Option.map_some, if_pos hfamily]
      · rw [Option.map_some, if_neg hfamily]
        cases hg : t.families.get? fam with
        | none =>
            rw [revokeFamily_of_unknown now fam reason hg]
            exact hr
        | some g =>
            have hnot : id ∉ g.records := fun hmem =>
              hfamily (ht.family_of_mem fam g id r hg hmem hr)
            rw [get?_records_revokeFamily now fam reason hg, if_neg hnot]
            exact hr

theorem Coherent.get?_records_withdrawn {t : Table} (ht : t.Coherent) (now : Instant)
    (fam : FamilyId) (reason : Reason) (id : RecordId) :
    (t.revokeFamily now fam reason).2.records.get? id = (t.records.get? id).map (fun r =>
      if r.family = fam then r.revoke now reason else r) :=
  ht.placed.get?_records_withdrawn now fam reason id

theorem Coherent.revokeFamily_fst {t : Table} (ht : t.Coherent) (now : Instant) (fam : FamilyId)
    (reason : Reason) :
    (t.revokeFamily now fam reason).1 = t.differing (t.revokeFamily now fam reason).2 := by
  cases hg : t.families.get? fam with
  | none =>
      rw [revokeFamily_of_unknown now fam reason hg]
      have hsame : t.records.entries.filter (fun e => decide (t.records.get? e.1 ≠ some e.2)) =
          [] := by
        rw [List.filter_eq_nil_iff]
        rintro ⟨id, r⟩ hmem
        simp [Registry.mem_entries.mp hmem]
      unfold differing
      rw [hsame]
      rfl
  | some g =>
      have hcount : (t.revokeFamily now fam reason).1 =
          (revokeRecords now reason g.records t.records).1 := by
        unfold revokeFamily
        rw [hg]
      have hnodup := ht.nodup fam g hg
      rw [hcount, revokeRecords_fst now reason hnodup]
      unfold differing
      rw [← List.length_map (f := Prod.fst)]
      -- Both lists are free of repetitions and have the same members.
      apply List.Perm.length_eq
      rw [List.perm_ext_iff_of_nodup (hnodup.filter _)
        ((List.filter_sublist.map Prod.fst).nodup t.records.nodup_keys)]
      intro id
      simp only [List.mem_filter, List.mem_map, Prod.exists, decide_eq_true_eq, exists_and_right,
        exists_eq_right, Registry.mem_entries, ht.get?_records_withdrawn now fam reason]
      constructor
      · intro h
        rcases h with ⟨hmem, hany⟩
        rcases (Option.any_eq_true _ _).mp hany with ⟨r, hr, hstate⟩
        refine ⟨r, hr, ?_⟩
        rw [hr, Option.map_some, if_pos (ht.family_of_mem hg hmem hr)]
        intro heq
        have hsame := congrArg Record.state (Option.some.inj heq)
        rw [← hsame] at hstate
        simp at hstate
      · intro h
        rcases h with ⟨r, hr, hne⟩
        rw [hr, Option.map_some] at hne
        have hfamily : r.family = fam := by
          by_contra hother
          rw [if_neg hother] at hne
          exact hne rfl
        rcases ht.listed id r hr with ⟨g', hg', hmem⟩
        rw [hfamily, hg] at hg'
        cases hg'
        refine ⟨hmem, ?_⟩
        have hstate : r.state ≠ .revoked := by
          intro hrevoked
          rw [if_pos hfamily, Record.revoke_of_revoked hrevoked] at hne
          exact hne rfl
        simp [hr, hstate]

/-! # Withdrawing all families of a subject -/

/-- What the withdrawal of all families of a subject does: its families are withdrawn, and those
of its records that were not withdrawn before are so for this reason and at this instant.  The
records and families of other subjects stay as they were. -/
structure Sweep (t u : Table) (subject : SubjectId) (now : Instant) (reason : Reason) : Prop where
  records : ∀ id, u.records.get? id = (t.records.get? id).map (fun r =>
    if r.subject = subject then r.revoke now reason else r)
  families : ∀ k, u.families.get? k = (t.families.get? k).map (fun g =>
    if g.subject = subject then g.withdraw now else g)
  index : ∀ hash, u.byHash.get? hash = t.byHash.get? hash

theorem Coherent.get?_records_foldl {t : Table} (ht : t.Coherent) (now : Instant)
    (reason : Reason) (families : List FamilyId) (id : RecordId) :
    (families.foldl (fun t fam => (t.revokeFamily now fam reason).2) t).records.get? id =
      (t.records.get? id).map
        (fun r => if r.family ∈ families then r.revoke now reason else r) := by
  induction families generalizing t with
  | nil => simp
  | cons fam families ih =>
      rw [List.foldl_cons, ih (ht.withdrawn now fam reason),
        ht.get?_records_withdrawn now fam reason id]
      cases t.records.get? id with
      | none => rfl
      | some r =>
          have hkeeps := (r.revoke_keeps now reason).2.2.1
          by_cases hfamily : r.family = fam
          · by_cases hmem : r.family ∈ families
            · simp [hfamily, hfamily ▸ hmem, hkeeps]
            · simp [hfamily, hfamily ▸ hmem, hkeeps]
          · simp [hfamily]

theorem Coherent.sweep {t : Table} (ht : t.Coherent) (now : Instant) (subject : SubjectId)
    (reason : Reason) : Sweep t (t.revokeSubjectFamilies now subject reason).2 subject now
      reason where
  records := by
    intro id
    refine (ht.get?_records_foldl now reason (t.liveFamilies subject) id).trans ?_
    cases hr : t.records.get? id with
    | none => rfl
    | some r =>
        rw [Option.map_some, Option.map_some]
        rcases ht.listed id r hr with ⟨g, hg, _⟩
        have hsubject := ht.subject_eq hg hr rfl
        by_cases hmem : r.family ∈ t.liveFamilies subject
        · rcases (mem_liveFamilies r.family).mp hmem with ⟨g', hg', hown, _⟩
          rw [hg] at hg'
          cases hg'
          rw [if_pos hmem, if_pos (hsubject.trans hown)]
        · rw [if_neg hmem]
          by_cases hown : r.subject = subject
          · have hrevoked : g.isRevoked = true := by
              cases hlive : g.isRevoked with
              | true => rfl
              | false =>
                  have hlisted := (mem_liveFamilies r.family).mpr
                    ⟨g, hg, hsubject.symm.trans hown, hlive⟩
                  exact absurd hlisted hmem
            rw [if_pos hown, Record.revoke_of_revoked ((ht.revoked_iff hg hr rfl).mpr hrevoked)]
          · rw [if_neg hown]
  families := get?_families_revokeSubjectFamilies now reason subject
  index := by
    intro hash
    refine revokeSubjectFamilies_induction
      (P := fun u => u.byHash.get? hash = t.byHash.get? hash) now reason subject rfl ?_
    intro u fam hu
    rw [byHash_revokeFamily]
    exact hu

theorem nodup_liveFamilies (t : Table) (subject : SubjectId) : (t.liveFamilies subject).Nodup :=
  (List.filter_sublist.map Prod.fst).nodup t.families.nodup_keys

/-! # Exchanging -/

/-- What the exchange of a record for a successor does: the record is exchanged, the successor
stands at the end of its family, and the index knows its hash.  The other records and families
stay as they were. -/
structure Succession (t u : Table) (r next : Record) (now : Instant) : Prop where
  presented : u.records.get? r.id = some
    { r with state := .consumed, consumedAt := some now, replacedBy := some next.id }
  successor : t.records.get? next.id = none ∧ u.records.get? next.id = some next
  others : ∀ id, id ≠ r.id → id ≠ next.id → u.records.get? id = t.records.get? id
  families : ∀ k, u.families.get? k = (t.families.get? k).map (fun g =>
    if k = r.family then { g with records := g.records ++ [next.id] } else g)
  index : ∀ hash, u.byHash.get? hash =
    if hash = next.tokenHash then some next.id else t.byHash.get? hash

theorem succession {t : Table} {now : Instant} {r next : Record}
    (hr : t.records.get? r.id = some r) (hid : t.records.get? next.id = none)
    (hfamily : next.family = r.family) : Succession t (t.exchanged now r.id next) r next now where
  presented := get?_records_exchanged_self hr hid
  successor := ⟨hid, get?_records_exchanged_successor hr hid⟩
  others := fun _ => get?_records_exchanged_of_ne
  families := by
    intro k
    rw [get?_families_exchanged, hfamily]
    by_cases hk : k = r.family
    · simp [hk, Family.extend]
    · simp [hk]
  index := fun _ => get?_byHash_exchanged _

/-- The exchange of an active record in a family in force succeeds. -/
theorem transition_of_open {t : Table} {now : Instant} {r next : Record}
    (hr : t.records.get? r.id = some r) (hstate : r.state = .active)
    (hopen : t.isClosed r.family = false) (hfamily : next.family = r.family)
    (hhash : t.byHash.get? next.tokenHash = none) :
    t.transition now r.id .active .consumed (some next) =
      .ok (.applied, t.exchanged now r.id next) := by
  have hpush : t.pushSuccessor r.family next =
      .ok { t.store next with
        families := t.families.modify r.family (fun f => f.extend next.id) } := by
    unfold pushSuccessor
    rw [if_neg (fun hne => hne hfamily), push_eq_ok.mpr ⟨hhash, rfl⟩]
    rfl
  unfold transition
  rw [hr]
  simp only [hopen, hstate, hpush]
  rw [← hfamily]
  rfl

theorem Coherent.transition_of_active {t : Table} (ht : t.Coherent) {now : Instant}
    {r next : Record} (hr : t.records.get? r.id = some r) (hstate : r.state = .active)
    (hfamily : next.family = r.family) (hhash : t.byHash.get? next.tokenHash = none) :
    t.transition now r.id .active .consumed (some next) =
      .ok (.applied, t.exchanged now r.id next) := by
  rcases ht.last_of_active hr hstate with ⟨g, k, hg, _, _, hlive, _⟩
  exact transition_of_open hr hstate (isClosed_eq_false.mpr ⟨g, hg, hlive⟩) hfamily hhash

end Table

end Refresh
end SessionAuth
