import Mathlib.Data.List.Nodup
import SessionAuth.Proofs.Service.Atomicity
import SessionAuth.Proofs.Service.Backing

/-!
# The list of sessions

The list is made from a look at all records, and a refresh goes by the index and the family.  They
agree in every state: a session is listed if and only if its newest secret can be exchanged.
-/

namespace SessionAuth

open Time Refresh

/-! # Active records -/

namespace Refresh.Table

/-- An active record of a subject that has not expired, in a family that is not withdrawn. -/
structure Refreshable (t : Table) (subject : SubjectId) (now : Instant) (r : Record) : Prop where
  stored : t.records.get? r.id = some r
  active : r.state = .active
  unexpired : ¬ r.expiresAt ≤ now
  family : ∃ g, t.families.get? r.family = some g ∧ g.subject = subject ∧ g.isRevoked = false

variable {t : Table} {subject : SubjectId}

theorem activeRecords_perm (t : Table) (subject : SubjectId) :
    (t.activeRecords subject).Perm
      (t.records.values.filter (fun r => decide (r.subject = subject) && r.isActive)) :=
  List.mergeSort_perm _ _

theorem pairwise_activeRecords (t : Table) (subject : SubjectId) :
    (t.activeRecords subject).Pairwise (fun r s => r.createdAt ≤ s.createdAt) := by
  unfold activeRecords
  refine (List.pairwise_mergeSort ?_ ?_ _).imp ?_
  · intro a b c hab hbc
    exact decide_eq_true (Int.le_trans (of_decide_eq_true hab) (of_decide_eq_true hbc))
  · intro a b
    rcases Int.le_total a.createdAt.nanos b.createdAt.nanos with h | h
    · exact Bool.or_eq_true_iff.mpr (Or.inl (decide_eq_true h))
    · exact Bool.or_eq_true_iff.mpr (Or.inr (decide_eq_true h))
  · intro a b hab
    exact of_decide_eq_true hab

namespace Coherent

variable (ht : t.Coherent)
include ht

theorem mem_activeRecords {r : Record} :
    r ∈ t.activeRecords subject ↔
      t.records.get? r.id = some r ∧ r.subject = subject ∧ r.state = .active := by
  rw [(activeRecords_perm t subject).mem_iff, List.mem_filter]
  have hvalue : r ∈ t.records.values ↔ t.records.get? r.id = some r := by
    constructor
    · intro h
      rcases List.mem_map.mp h with ⟨⟨id, q⟩, hentry, rfl⟩
      have hq := Registry.mem_entries.mp hentry
      dsimp only
      rw [ht.keyed id q hq]
      exact hq
    · intro h
      exact List.mem_map.mpr ⟨(r.id, r), Registry.mem_entries.mpr h, rfl⟩
  simp [hvalue, Record.isActive]

theorem nodup_activeRecords : ((t.activeRecords subject).map Record.family).Nodup := by
  have hrecords : (t.activeRecords subject).Nodup := by
    rw [(activeRecords_perm t subject).nodup_iff]
    apply List.Nodup.filter
    refine List.Nodup.map_on ?_ (List.Nodup.of_map Prod.fst t.records.nodup_keys)
    rintro ⟨id, r⟩ hr ⟨id', r'⟩ hr' hsame
    have hid := ht.keyed id r (Registry.mem_entries.mp hr)
    have hid' := ht.keyed id' r' (Registry.mem_entries.mp hr')
    cases hsame
    rw [← hid, ← hid']
  refine hrecords.map_on ?_
  intro r hr r' hr' hfamily
  rcases ht.mem_activeRecords.mp hr with ⟨hstored, _, hactive⟩
  rcases ht.mem_activeRecords.mp hr' with ⟨hstored', _, hactive'⟩
  have hid := Service.active_unique ht hstored' hactive' hstored hactive hfamily
  rw [hid, hstored'] at hstored
  exact (Option.some.inj hstored).symm

theorem refreshable_iff {now : Instant} {r : Record} :
    t.Refreshable subject now r ↔
      r ∈ t.activeRecords subject ∧ r.isExpired now = false := by
  rw [ht.mem_activeRecords]
  constructor
  · intro h
    rcases h.family with ⟨g, hg, hsubject, _⟩
    exact ⟨⟨h.stored, (ht.subject_eq hg h.stored rfl).trans hsubject, h.active⟩,
      decide_eq_false h.unexpired⟩
  · intro h
    rcases h with ⟨⟨hstored, hsubject, hactive⟩, hexpired⟩
    rcases ht.live_of_get? hstored (by simp [hactive]) with ⟨g, hg, hlive⟩
    have hown := (ht.subject_eq hg hstored rfl).symm.trans hsubject
    exact ⟨hstored, hactive, of_decide_eq_false hexpired, g, hg, hown, hlive⟩

/-- The newest record of a family is active, or withdrawn together with the family. -/
theorem newest {fam : FamilyId} {g : Family} {q : Record} (hg : t.families.get? fam = some g)
    (hlast : g.records.getLast? = some q.id) (hq : t.records.get? q.id = some q) :
    q.family = fam ∧ q.subject = g.subject ∧
      q.state = if g.isRevoked then .revoked else .active := by
  rw [List.getLast?_eq_getElem?] at hlast
  rcases ht.filled fam g _ q.id hg hlast with ⟨q', hq', hfills⟩
  rw [hq] at hq'
  cases hq'
  refine ⟨hfills.family, hfills.subject, hfills.state.trans ?_⟩
  have hlength := List.length_pos_iff.mpr (ht.nonempty fam g hg)
  unfold Family.stateAt
  split
  · rfl
  · rw [if_neg]
    omega

end Coherent

end Refresh.Table

namespace Session

/-! # The list -/

def listed (t : Table) (subject : SubjectId) (now : Instant) : List Info :=
  ((t.activeRecords subject).filter (fun r => !r.isExpired now)).map Info.ofRecord

theorem run_listSessions (w : World) (subject : SubjectId) :
    w.run (Facade.listSessions subject) =
      (.ok (listed w.store.tokens subject (w.instant 1)), w.tick.tick) := rfl

section Listed

variable {t : Table} {subject : SubjectId} {now : Instant}

theorem pairwise_listed :
    (listed t subject now).Pairwise (fun a b => a.lastRotatedAt ≤ b.lastRotatedAt) := by
  unfold listed
  rw [List.pairwise_map]
  exact (Table.pairwise_activeRecords t subject).filter _

variable (ht : t.Coherent)
include ht

theorem nodup_listed : ((listed t subject now).map Info.family).Nodup := by
  unfold listed
  rw [List.map_map]
  exact ht.nodup_activeRecords.sublist (List.filter_sublist.map Record.family)

theorem mem_listed {info : Info} :
    info ∈ listed t subject now ↔
      ∃ r, t.Refreshable subject now r ∧
        info = ⟨r.family, r.generation, r.createdAt, r.expiresAt⟩ := by
  unfold listed
  simp only [List.mem_map, List.mem_filter, ht.refreshable_iff, Bool.not_eq_true']
  constructor
  · intro h
    rcases h with ⟨r, hr, rfl⟩
    exact ⟨r, hr, rfl⟩
  · intro h
    rcases h with ⟨r, hr, rfl⟩
    exact ⟨r, hr, rfl⟩

theorem listed_iff_newest {fam : FamilyId} {g : Family} {q : Record}
    (hg : t.families.get? fam = some g) (hsubject : g.subject = subject)
    (hlast : g.records.getLast? = some q.id) (hq : t.records.get? q.id = some q) :
    (∃ info ∈ listed t subject now, info.family = fam) ↔
      q.state = .active ∧ ¬ q.expiresAt ≤ now := by
  rcases ht.newest hg hlast hq with ⟨hfamily, _, hstate⟩
  constructor
  · intro h
    rcases h with ⟨info, hinfo, hfam⟩
    rcases (mem_listed ht).mp hinfo with ⟨r, hr, rfl⟩
    rcases hr.family with ⟨g', hg', _, hlive⟩
    have hrfam : r.family = fam := hfam
    rw [hrfam, hg] at hg'
    cases hg'
    rw [hlive, if_neg Bool.false_ne_true] at hstate
    have hid := Service.active_unique ht hq hstate hr.stored hr.active (hrfam.trans hfamily.symm)
    have hsame := hr.stored
    rw [hid, hq] at hsame
    cases hsame
    exact ⟨hstate, hr.unexpired⟩
  · intro h
    rcases h with ⟨hactive, hunexpired⟩
    have hlive : g.isRevoked = false := by
      rw [hactive] at hstate
      cases hrevoked : g.isRevoked with
      | false => rfl
      | true =>
          rw [hrevoked, if_pos rfl] at hstate
          cases hstate
    refine ⟨⟨q.family, q.generation, q.createdAt, q.expiresAt⟩, (mem_listed ht).mpr ?_, hfamily⟩
    rw [← hfamily] at hg
    exact ⟨q, ⟨hq, hactive, hunexpired, g, hg, hsubject, hlive⟩, rfl⟩

end Listed

/-! # What a refresh comes to -/

section Refreshed

variable (f : Facade) {v : World} {p : Secret} {q : Record} {x : Subject}
  (ht : v.store.tokens.Coherent) (hq : v.store.tokens.records.get? q.id = some q)
  (hhash : q.tokenHash = p.hash)
include ht hq hhash

theorem refresh_refused (h : q.state = .revoked ∨ q.state ≠ .revoked ∧ q.expiresAt ≤ v.instant 1) :
    ∃ failure, (v.run (f.refresh p)).1 = .ok (.error failure) := by
  rcases h with hrevoked | ⟨hstate, hexpired⟩
  · refine ⟨Failure.invalidCredential, ?_⟩
    rw [run_refresh_fst, (gives_rotate_of_revoked f.issuer ht hq hhash hrevoked).left]
    rfl
  · refine ⟨Failure.expired, ?_⟩
    rw [run_refresh_fst, (gives_rotate_of_expired f.issuer ht hq hhash hstate hexpired).left]
    rfl

variable (hactive : q.state = .active) (hunexpired : ¬ q.expiresAt ≤ v.instant 1)
  (hx : v.store.subjects.findById q.subject = some x) (husable : x.isUsable = true)
include hactive hunexpired hx husable

/-- An active record that has not expired is not refused to a usable subject. -/
theorem refresh_not_refused (failure : Failure) :
    (v.run (f.refresh p)).1 ≠ .ok (.error failure) := by
  rcases findByHash_presented ht hq hhash with ⟨hfound, hown⟩
  rw [run_refresh_fst, run_rotate_of_usable f.issuer v hfound hown hactive hunexpired hx husable]
  intro h
  rcases hresult : ((v.tick.tick.called v.store).run (exchange f.issuer x q)).1 with e | (j | o)
  · rw [hresult] at h
    cases h
  · refine exchange_not_refused _ f.issuer ?_ j hresult
    intro now successor o t hperform
    exact applied_of_active ht hq hactive hperform
  · rw [hresult] at h
    cases h

/-- The refresh succeeds if the family may grow, the access token can be signed and the new secret
is new. -/
theorem refresh_succeeds (hsubject : x.id = q.subject) {access : Access.Credential}
    (hgeneration : q.generation < maxGeneration)
    (haccess : f.issuer.issueAccess (v.instant 3) ⟨v.uuid 0⟩ x.id x.admin (some q.family) =
      .ok access)
    (hnew : v.store.tokens.byHash.get? v.secret.hash = none) :
    ∃ tokens, (v.run (f.refresh p)).1 = .ok (.ok tokens) := by
  have htransition : v.store.tokens.transition (v.instant 5) q.id .active .consumed
      (some (successor f.issuer (v.tick.tick.called v.store) q)) = .ok (.applied, _) :=
    ht.transition_of_active hq hactive rfl hnew
  have hgives := gives_exchange f.issuer (v.tick.tick.called v.store) hgeneration hsubject haccess
    htransition
  rcases findByHash_presented ht hq hhash with ⟨hfound, hown⟩
  rw [run_refresh_fst, run_rotate_of_usable f.issuer v hfound hown hactive hunexpired hx husable,
    hgives.left]
  exact ⟨_, rfl⟩

end Refreshed

/-- A subject that may act presents the newest secret of one of its families, in a world with the
store of another one. -/
structure Presents (w v : World) (subject : SubjectId) (fam : FamilyId) (q : Record) (p : Secret)
    (x : Subject) : Prop where
  store : v.store = w.store
  family : ∃ g, w.store.tokens.families.get? fam = some g ∧ g.subject = subject ∧
    g.records.getLast? = some q.id
  newest : w.store.tokens.records.get? q.id = some q
  hash : q.tokenHash = p.hash
  known : w.store.subjects.findById subject = some x
  usable : x.isUsable = true

namespace Presents

variable (f : Facade) {w v : World} {subject : SubjectId} {fam : FamilyId} {q : Record} {p : Secret}
  {x : Subject} (hp : Presents w v subject fam q p x) (ht : w.store.tokens.Coherent)
include hp ht

theorem stored : v.store.tokens.Coherent ∧ v.store.tokens.records.get? q.id = some q := by
  rw [hp.store]
  exact ⟨ht, hp.newest⟩

theorem owned : q.family = fam ∧ q.subject = subject := by
  rcases hp.family with ⟨g, hg, hsubject, hlast⟩
  rcases ht.newest hg hlast hp.newest with ⟨hfamily, hown, _⟩
  exact ⟨hfamily, hown.trans hsubject⟩

theorem listed_iff (now : Instant) :
    (∃ info ∈ listed w.store.tokens subject now, info.family = fam) ↔
      q.state = .active ∧ ¬ q.expiresAt ≤ now := by
  rcases hp.family with ⟨g, hg, hsubject, hlast⟩
  exact listed_iff_newest ht hg hsubject hlast hp.newest

theorem refused (hclosed : ¬ (q.state = .active ∧ ¬ q.expiresAt ≤ v.instant 1)) :
    ∃ failure, (v.run (f.refresh p)).1 = .ok (.error failure) := by
  rcases hp.family with ⟨g, hg, _, hlast⟩
  rcases ht.newest hg hlast hp.newest with ⟨_, _, hstate⟩
  rcases hp.stored ht with ⟨htv, hq⟩
  apply refresh_refused f htv hq hp.hash
  -- The newest record is never consumed: it is withdrawn with its family, or else it has expired.
  cases hrevoked : g.isRevoked with
  | true =>
      rw [hrevoked, if_pos rfl] at hstate
      exact Or.inl hstate
  | false =>
      rw [hrevoked, if_neg Bool.false_ne_true] at hstate
      refine Or.inr ⟨by simp [hstate], ?_⟩
      by_contra hunexpired
      exact hclosed ⟨hstate, hunexpired⟩

section Open

variable (hopen : q.state = .active ∧ ¬ q.expiresAt ≤ v.instant 1)
include hopen

theorem succeeds_of_runs (hruns : ∀ h, (v.run (f.refresh p)).1 ≠ .error h) :
    ∃ tokens, (v.run (f.refresh p)).1 = .ok (.ok tokens) := by
  rcases hp.stored ht with ⟨htv, hq⟩
  have hx : v.store.subjects.findById q.subject = some x := by
    rw [hp.store, (hp.owned ht).right]
    exact hp.known
  have hrefused := refresh_not_refused f htv hq hp.hash hopen.left hopen.right hx hp.usable
  rcases hresult : (v.run (f.refresh p)).1 with h | (failure | tokens)
  · exact absurd hresult (hruns h)
  · exact absurd hresult (hrefused failure)
  · exact ⟨tokens, rfl⟩

theorem succeeds (hkeyed : w.store.subjects.Keyed) {access : Access.Credential}
    (hgeneration : q.generation < maxGeneration)
    (haccess : f.issuer.issueAccess (v.instant 3) ⟨v.uuid 0⟩ x.id x.admin (some fam) = .ok access)
    (hnew : w.store.tokens.byHash.get? v.secret.hash = none) :
    ∃ tokens, (v.run (f.refresh p)).1 = .ok (.ok tokens) := by
  rcases hp.stored ht with ⟨htv, hq⟩
  rcases hp.owned ht with ⟨hfamily, hsubject⟩
  have hx : v.store.subjects.findById q.subject = some x := by
    rw [hp.store, hsubject]
    exact hp.known
  rw [← hfamily] at haccess
  rw [← hp.store] at hnew
  exact refresh_succeeds f htv hq hp.hash hopen.left hopen.right hx hp.usable
    ((hkeyed.findById hp.known).trans hsubject.symm) hgeneration haccess hnew

end Open

end Presents

open Service

/-- In every state that a service comes to, a subject is shown the sessions that it can refresh, in
the order of their last refresh: one for each of its families that is not withdrawn and whose active
record has not expired, as this record says.  A family is listed exactly if a refresh with its
newest secret at that instant succeeds, provided that it does not halt.  It does not halt if the
generation is not the last, the access token can be signed and the new secret is new. -/
theorem listed_iff_refreshes {f : Facade} {s : Service} (hs : Reachable f s) (hd : s.DistinctIds)
    {w : World} (hw : w.store = s.world.store) (subject : SubjectId) :
    ∃ infos, w.Gives (Facade.listSessions subject) infos w.store ∧
      infos.Pairwise (fun a b => a.lastRotatedAt ≤ b.lastRotatedAt) ∧
      (infos.map Info.family).Nodup ∧
      (∀ info, info ∈ infos ↔ ∃ r, w.store.tokens.Refreshable subject (w.instant 1) r ∧
        info = ⟨r.family, r.generation, r.createdAt, r.expiresAt⟩) ∧
      ∀ v fam q p x, Presents w v subject fam q p x → v.instant 1 = w.instant 1 →
        ((∀ h, (v.run (f.refresh p)).1 ≠ .error h) →
          ((∃ info ∈ infos, info.family = fam) ↔
            ∃ tokens, (v.run (f.refresh p)).1 = .ok (.ok tokens))) ∧
        ∀ access, q.generation < maxGeneration →
          f.issuer.issueAccess (v.instant 3) ⟨v.uuid 0⟩ x.id x.admin (some fam) = .ok access →
          w.store.tokens.byHash.get? v.secret.hash = none →
          ∀ h, (v.run (f.refresh p)).1 ≠ .error h := by
  have hinv := hs.invariant hd
  have ht : w.store.tokens.Coherent := by
    rw [hw]
    exact hinv.coherent
  have hkeyed : w.store.subjects.Keyed := by
    rw [hw]
    exact hinv.keyed
  refine ⟨listed w.store.tokens subject (w.instant 1), ?_, pairwise_listed, nodup_listed ht, ?_, ?_⟩
  · rw [World.Gives, run_listSessions]
    exact ⟨rfl, rfl⟩
  · intro info
    exact mem_listed ht
  · intro v fam q p x hp hnow
    have hlisted := hp.listed_iff ht (w.instant 1)
    rw [← hnow] at hlisted ⊢
    by_cases hopen : q.state = .active ∧ ¬ q.expiresAt ≤ v.instant 1
    · constructor
      · intro hruns
        exact ⟨fun _ => hp.succeeds_of_runs f ht hopen hruns, fun _ => hlisted.mpr hopen⟩
      · intro access hgeneration haccess hnew h hhalts
        rcases hp.succeeds f ht hopen hkeyed hgeneration haccess hnew with ⟨tokens, htokens⟩
        rw [hhalts] at htokens
        cases htokens
    · rcases hp.refused f ht hopen with ⟨failure, hrefused⟩
      rw [hrefused]
      constructor
      · intro _
        refine ⟨fun h => absurd (hlisted.mp h) hopen, ?_⟩
        rintro ⟨tokens, htokens⟩
        cases htokens
      · intro _ _ _ _ h hhalts
        cases hhalts

/-- A session that has been refreshed once is listed, and can be refreshed again. -/
theorem listed_iff_refreshes_rotated :
    ∃ infos, Sample.rotated.world.Gives (Facade.listSessions Sample.subject.id) infos
        Sample.rotated.world.store ∧
      (∃ info ∈ infos, info.family = Sample.family) ∧
      ∃ tokens, (Sample.rotated.world.run (Sample.facade.refresh (Sample.supply.secrets 1))).1 =
        .ok (.ok tokens) := by
  have hs : Reachable Sample.facade Sample.rotated := Sample.reachable_run _
  have hobserved : (Sample.rotated.tokens.families.get? Sample.family).any (fun g =>
        decide (g.subject = Sample.subject.id) && g.records.getLast?.any (fun id =>
          (Sample.rotated.tokens.records.get? id).any (fun q =>
            decide (q.id = id) && decide (q.tokenHash = (Sample.supply.secrets 1).hash)))) = true ∧
      (Sample.rotated.world.store.subjects.findById Sample.subject.id).any Subject.isUsable = true ∧
      (Sample.rotated.world.run (Sample.facade.refresh (Sample.supply.secrets 1))).1.toOption.any
        (fun r => r.toOption.isSome) = true := by
    decide +kernel
  rcases hobserved with ⟨hfamily, hknown, hruns⟩
  rcases (Option.any_eq_true _ _).mp hknown with ⟨x, hx, husable⟩
  rcases (Option.any_eq_true _ _).mp hfamily with ⟨g, hg, hshape⟩
  rw [Bool.and_eq_true, decide_eq_true_eq] at hshape
  rcases (Option.any_eq_true _ _).mp hshape.right with ⟨id, hlast, hrecord⟩
  rcases (Option.any_eq_true _ _).mp hrecord with ⟨q, hq, hkeyed⟩
  rw [Bool.and_eq_true, decide_eq_true_eq, decide_eq_true_eq] at hkeyed
  rcases hkeyed with ⟨rfl, hhash⟩
  have hpresents : Presents Sample.rotated.world Sample.rotated.world Sample.subject.id
      Sample.family q (Sample.supply.secrets 1) x :=
    ⟨rfl, ⟨g, hg, hshape.left, hlast⟩, hq, hhash, hx, husable⟩
  rcases listed_iff_refreshes hs Sample.distinctIds_rotated rfl Sample.subject.id with
    ⟨infos, hgives, _, _, _, hlisted⟩
  have hiff := (hlisted _ _ _ _ _ hpresents rfl).left
  rcases hresult : (Sample.rotated.world.run (Sample.facade.refresh
    (Sample.supply.secrets 1))).1 with h | (failure | tokens)
  · rw [hresult] at hruns
    cases hruns
  · rw [hresult] at hruns
    cases hruns
  · rw [hresult] at hiff
    exact ⟨infos, hgives, (hiff nofun).mpr ⟨tokens, rfl⟩, tokens, rfl⟩

end Session

end SessionAuth
