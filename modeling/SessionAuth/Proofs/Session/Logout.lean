import SessionAuth.Proofs.Session.Decision

/-!
# Logging out

A logout that nothing interrupts ends the family of its secret, whatever has become of the record
of this secret in the meantime, and touches nothing else.  After that there is nothing left to end:
to log out once more, with any secret of the family, changes nothing.
-/

namespace SessionAuth

open Time

namespace Refresh

namespace Table

/-! # Ending a family -/

/-- What the end of a family does: all its records are withdrawn, those that were not withdrawn
before for this reason and at this instant.  The other records and families stay as they were. -/
structure Ending (t u : Table) (fam : FamilyId) (now : Instant) (reason : Reason) : Prop where
  revoked : ∀ id q, u.records.get? id = some q → q.family = fam → q.state = .revoked
  records : ∀ id, u.records.get? id = (t.records.get? id).map (fun q =>
    if q.family = fam ∧ q.state ≠ .revoked then
      { q with state := .revoked, reason := some reason, revokedAt := some now }
    else q)
  families : ∀ k, u.families.get? k = (t.families.get? k).map (fun g =>
    if k = fam then { g with revokedAt := some (g.revokedAt.getD now) } else g)
  index : ∀ hash, u.byHash.get? hash = t.byHash.get? hash

theorem Coherent.ending {t : Table} (ht : t.Coherent) (now : Instant) (fam : FamilyId)
    (reason : Reason) : Ending t (t.revokeFamily now fam reason).2 fam now reason where
  revoked := by
    intro id q hq hfamily
    rw [ht.get?_records_withdrawn] at hq
    rcases Option.map_eq_some_iff.mp hq with ⟨r, _, rfl⟩
    split at hfamily
    case isTrue hown =>
        rw [if_pos hown]
        exact r.state_revoke now reason
    case isFalse hother => exact absurd hfamily hother
  records := by
    intro id
    rw [ht.get?_records_withdrawn]
    refine congrArg (fun g => (t.records.get? id).map g) (funext fun r => ?_)
    by_cases hfamily : r.family = fam
    · by_cases hstate : r.state = .revoked
      · simp [hfamily, hstate, Record.revoke_of_revoked hstate]
      · simp [hfamily, hstate, Record.revoke_of_not_revoked hstate]
    · simp [hfamily]
  families := by
    intro k
    rw [get?_families_revokeFamily]
    split
    · rfl
    · simp
  index := by
    intro hash
    rw [byHash_revokeFamily]

theorem revokeRecords_of_revoked (now : Instant) (reason : Reason) {ids : List RecordId}
    {records : Registry RecordId Record}
    (h : ∀ id ∈ ids, ∀ r, records.get? id = some r → r.state = .revoked) :
    revokeRecords now reason ids records = (0, records) := by
  induction ids with
  | nil => rfl
  | cons id ids ih =>
      rcases List.forall_mem_cons.mp h with ⟨hfirst, hrest⟩
      have hsame : records.modify id (fun r => r.revoke now reason) = records :=
        Registry.modify_eq_self (fun r hr => Record.revoke_of_revoked (hfirst r hr) now reason)
      have hnone : (records.get? id).any (fun r => r.state != .revoked) = false := by
        rw [Option.any_eq_false]
        intro r hr
        simp [hfirst r hr]
      simp only [revokeRecords, hsame, hnone, ih hrest]
      rfl

theorem Coherent.revokeFamily_of_revoked {t : Table} (ht : t.Coherent) {fam : FamilyId}
    (hrevoked : ∀ g, t.families.get? fam = some g → g.isRevoked = true) (now : Instant)
    (reason : Reason) : t.revokeFamily now fam reason = (0, t) := by
  cases hg : t.families.get? fam with
  | none => exact revokeFamily_of_unknown now fam reason hg
  | some g =>
      have hrecords : revokeRecords now reason g.records t.records = (0, t.records) := by
        apply revokeRecords_of_revoked
        intro id hmem r hr
        exact (ht.revoked_iff hg hr (ht.family_of_mem hg hmem hr)).mpr (hrevoked g hg)
      have hfamilies : t.families.modify fam
          (fun f => { f with revokedAt := some (f.revokedAt.getD now) }) = t.families :=
        Registry.modify_eq_self (fun f hf => Family.withdraw_of_isRevoked (hrevoked f hf) now)
      unfold revokeFamily
      rw [hg]
      simp only [hrecords, hfamilies]

theorem Coherent.revokeFamily_again {t : Table} (ht : t.Coherent) (fam : FamilyId)
    (now now' : Instant) (reason reason' : Reason) :
    (t.revokeFamily now fam reason).2.revokeFamily now' fam reason' =
      (0, (t.revokeFamily now fam reason).2) := by
  apply (ht.withdrawn now fam reason).revokeFamily_of_revoked
  intro g hg
  rw [get?_families_revokeFamily, if_pos rfl] at hg
  rcases Option.map_eq_some_iff.mp hg with ⟨f, _, rfl⟩
  exact f.isRevoked_withdraw now

end Table

end Refresh

open Refresh

/-- A flow that nothing interrupts adds events to the trail. -/
def World.Emits {α : Type} (w : World) (x : Flow α) (events : List Audit.Event) : Prop :=
  (w.run x).2.trail = w.trail ++ events

namespace Session

open World

variable {w : World} {p : Secret} {r : Record}

/-! # The parts of a logout -/

theorem run_revokePresented_of_stranger
    (h : (w.store.tokens.findByHash p.hash).filter (fun r => r.belongsTo p) = none)
    (reason : Reason) : w.run (revokePresented p reason) = (.ok none, w.tick) := by
  unfold revokePresented
  rw [run_findPresented, h]
  rfl

theorem run_revokePresented_of_unknown (h : w.store.tokens.findByHash p.hash = none)
    (reason : Reason) : w.run (revokePresented p reason) = (.ok none, w.tick) := by
  apply run_revokePresented_of_stranger
  rw [h]
  rfl

theorem run_revokePresented_of_found (h : w.store.tokens.findByHash p.hash = some r)
    (hown : r.belongsTo p = true) {n : Nat} {t : Table} {reason : Reason}
    (hends : w.store.tokens.revokeFamily (w.instant 1) r.family reason = (n, t)) :
    w.run (revokePresented p reason) =
      (.ok (some ⟨r.subject, r.family, n⟩), w.tick.called { w.store with tokens := t }) := by
  have hperform : w.tick.store.perform (w.tick.instant 0) (.revokeFamily r.family reason) =
      .ok (n, { w.store with tokens := t }) := by
    change Except.ok ((w.store.tokens.revokeFamily (w.instant 1) r.family reason).1,
      { w.store with tokens := (w.store.tokens.revokeFamily (w.instant 1) r.family reason).2 }) = _
    rw [hends]
  unfold revokePresented
  rw [run_findPresented, h, Option.filter_some, if_pos hown]
  exact run_call hperform _

/-- The event of a logout: whose session it was, which one, and how many records were withdrawn. -/
def logoutEvent (w : World) (r : Record) (n : Nat) : Audit.Event where
  id := ⟨w.uuid 0⟩
  kind := .sessionLoggedOut
  subject := some r.subject
  outcome := .success
  context := .object [("family_id", .string r.family.text), ("revoked_records", .int n)]
  createdAt := w.instant 2

theorem logout_of_unknown (h : w.store.tokens.findByHash p.hash = none) :
    w.Gives (Facade.logout p) () w.store ∧ w.Emits (Facade.logout p) [] := by
  unfold Gives Emits Facade.logout
  rw [run_bind_of_ok (run_revokePresented_of_unknown h .logout), List.append_nil]
  exact ⟨⟨rfl, rfl⟩, rfl⟩

theorem logout_of_found (h : w.store.tokens.findByHash p.hash = some r)
    (hown : r.belongsTo p = true) {n : Nat} {t : Table}
    (hends : w.store.tokens.revokeFamily (w.instant 1) r.family .logout = (n, t)) :
    w.Gives (Facade.logout p) () { w.store with tokens := t } ∧
      w.Emits (Facade.logout p) [logoutEvent w r n] := by
  unfold Gives Emits Facade.logout
  rw [run_bind_of_ok (run_revokePresented_of_found h hown hends)]
  exact ⟨⟨rfl, rfl⟩, rfl⟩

/-- In every state that a service comes to, a logout that nothing interrupts succeeds.  With a
secret whose hash no record has it changes nothing and reports nothing.  With any other secret it
ends the family of its record, whatever the state and the age of the record, and changes nothing
else in the store.  It reports the number of records that it has changed.  To log out once more,
with this or another secret of the family, changes nothing, and no record is reported. -/
theorem logout_ends_family {f : Facade} {s : Service} (hs : Service.Reachable f s)
    (hd : s.DistinctIds) (w : World) (hw : w.store = s.world.store) (p : Secret) :
    ((∀ id r, w.store.tokens.records.get? id = some r → r.tokenHash ≠ p.hash) →
      w.Gives (Facade.logout p) () w.store ∧ w.Emits (Facade.logout p) []) ∧
    ∀ id r, w.store.tokens.records.get? id = some r → r.tokenHash = p.hash →
      ∃ t, Table.Ending w.store.tokens t r.family (w.instant 1) .logout ∧
        w.Gives (Facade.logout p) () { w.store with tokens := t } ∧
        w.Emits (Facade.logout p) [logoutEvent w r (w.store.tokens.differing t)] ∧
        ∀ (v : World) (p' : Secret) (id' : RecordId) (q : Record),
          v.store = { w.store with tokens := t } → t.records.get? id' = some q →
          q.tokenHash = p'.hash → q.family = r.family →
          v.Gives (Facade.logout p') () v.store ∧
            v.Emits (Facade.logout p') [logoutEvent v q 0] := by
  have ht : w.store.tokens.Coherent := by
    rw [hw]
    exact (hs.invariant hd).coherent
  constructor
  · intro hnone
    apply logout_of_unknown
    cases hfound : w.store.tokens.findByHash p.hash with
    | none => rfl
    | some r =>
        rcases ht.get?_of_findByHash hfound with ⟨hr, hhash⟩
        exact absurd hhash (hnone _ r hr)
  · intro id r hr hhash
    rcases findByHash_presented ht hr hhash with ⟨hfound, hown⟩
    have hlogout := logout_of_found hfound hown (Prod.ext (ht.revokeFamily_fst _ _ _) rfl)
    refine ⟨_, ht.ending (w.instant 1) r.family .logout, hlogout.left, hlogout.right, ?_⟩
    intro v p' id' q hv hq hhash' hfamily
    have htokens := congrArg Store.tokens hv
    dsimp only at htokens
    have hcoherent := ht.withdrawn (w.instant 1) r.family .logout
    rw [← htokens] at hq hcoherent
    rcases findByHash_presented hcoherent hq hhash' with ⟨hfound', hown'⟩
    have hagain : v.store.tokens.revokeFamily (v.instant 1) q.family .logout =
        (0, v.store.tokens) := by
      rw [hfamily, htokens]
      exact ht.revokeFamily_again r.family _ _ _ _
    exact logout_of_found hfound' hown' hagain

open Service

/-- A secret that has been exchanged ends its session, and to log out with it once more changes
nothing. -/
theorem logout_ends_family_reused :
    ∃ r t, Sample.rotated.tokens.findByHash Sample.secret.hash = some r ∧ r.state = .consumed ∧
      Table.Ending Sample.rotated.tokens t r.family (Sample.rotated.world.instant 1) .logout ∧
      Sample.rotated.world.Gives (Facade.logout Sample.secret) ()
        { Sample.rotated.world.store with tokens := t } ∧
      World.Gives { Sample.rotated.world with
          store := { Sample.rotated.world.store with tokens := t } }
        (Facade.logout Sample.secret) () { Sample.rotated.world.store with tokens := t } := by
  have hs : Reachable Sample.facade Sample.rotated := Sample.reachable_run _
  have hd := Sample.distinctIds_rotated
  have hfound : (Sample.rotated.tokens.findByHash Sample.secret.hash).any
      (fun r => r.state == .consumed) = true := by decide +kernel
  rcases (Option.any_eq_true _ _).mp hfound with ⟨r, hr, hstate⟩
  rw [beq_iff_eq] at hstate
  rcases (hs.invariant hd).coherent.get?_of_findByHash hr with ⟨hstored, hhash⟩
  rcases (logout_ends_family hs hd Sample.rotated.world rfl Sample.secret).right _ r hstored hhash
    with ⟨t, hending, hgives, _, hagain⟩
  have hkept := hending.records r.id
  have hq : ∃ q, t.records.get? r.id = some q ∧ q.tokenHash = r.tokenHash ∧
      q.family = r.family := by
    have hold : Sample.rotated.world.store.tokens.records.get? r.id = some r := hstored
    rw [hold, Option.map_some] at hkept
    refine ⟨_, hkept, ?_⟩
    split
    · exact ⟨rfl, rfl⟩
    · exact ⟨rfl, rfl⟩
  rcases hq with ⟨q, hq, hsame, hfamily⟩
  refine ⟨r, t, hr, hstate, hending, hgives, ?_⟩
  exact (hagain _ Sample.secret r.id q rfl hq (hsame.trans hhash) hfamily).left

end Session
end SessionAuth
