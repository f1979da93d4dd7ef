import SessionAuth.Proofs.Service.Shape

/-!
# Withdrawal is final

Once a family has been withdrawn it stays as it is, whatever requests are in flight and whatever
they have read before.  An exchange succeeds at the moment of its one call of the store, and from
then on no exchange in the family succeeds.
-/

namespace SessionAuth

open Time Refresh

namespace Service

variable {f : Session.Facade}

/-- A family that has been withdrawn. -/
def Withdrawn (s : Service) (fam : FamilyId) : Prop :=
  ∃ g, s.tokens.families.get? fam = some g ∧ g.isRevoked = true

namespace Invariant

variable {s : Service} (hs : Invariant f s)
include hs

theorem withdrawn_of_withdraws {e : Entry} (he : e ∈ s.history) {fam : FamilyId}
    (h : e.turn.Withdraws fam) : s.Withdrawn fam := by
  have hattested := hs.attested e he
  rcases h with ⟨reason, n, heq⟩ | ⟨subject, reason, families, heq, hmem⟩
  · rw [heq] at hattested
    exact hattested
  · rw [heq] at hattested
    rcases hattested fam hmem with ⟨g, hg, hrevoked, _⟩
    exact ⟨g, hg, hrevoked⟩

theorem revoked_of_withdrawn {fam : FamilyId} (h : s.Withdrawn fam) {id : RecordId} {r : Record}
    (hr : s.tokens.records.get? id = some r) (hfamily : r.family = fam) : r.state = .revoked := by
  rcases h with ⟨g, hg, hrevoked⟩
  exact (hs.coherent.revoked_iff hg hr hfamily).mpr hrevoked

theorem exchanged_of_answered {i : Nat} {p : Secret} {tokens : Session.Tokens}
    (h : s.Answered i (.refresh p) (.ok tokens)) :
    ∃ r next, found p (some r) ∈ s.past i ∧ exchanged r.id next .applied ∈ s.past i ∧
      r.family = tokens.family ∧ next.family = tokens.family ∧
      next.tokenHash = tokens.refresh.hash := by
  rcases h.ends hs with ⟨x, hrotates, hx⟩
  cases hrotates with
  | renewed hcalls hhash hstate husable hgeneration hissued =>
      rename_i r y generation secret next access
      injection hx with hx
      have hfound : found p (some r) ∈ s.past i := Turn.mem_of_calls hcalls (by simp)
      have hexchanged : exchanged r.id next .applied ∈ s.past i :=
        Turn.mem_of_calls hcalls (by simp)
      refine ⟨r, next, hfound, hexchanged, ?_⟩
      rw [hx]
      cases hissued with
      | mk _ _ _ => exact ⟨rfl, rfl, rfl⟩
  | _ => cases hx

theorem get?_of_found {i : Nat} {p : Secret} {r : Record} (h : found p (some r) ∈ s.past i) :
    r.tokenHash = p.hash ∧ ∃ q, s.tokens.records.get? r.id = some q ∧ r.Evolves q :=
  hs.attested _ (mem_past.mp h)

end Invariant

section Later

variable {s t : Service} (hs : Reachable f s) (hst : Reaches f s t) (hd : t.DistinctIds)
include hs hst hd

theorem Withdrawn.later {fam : FamilyId} (h : s.Withdrawn fam) : t.Withdrawn fam := by
  rcases h with ⟨g, hg, hrevoked⟩
  exact ⟨g, (hs.evolves hst hd).families_of_revoked hg hrevoked, hrevoked⟩

/-- A record of a withdrawn family was in it when it was withdrawn, and has not changed since. -/
theorem Withdrawn.record_of_later {fam : FamilyId} (h : s.Withdrawn fam) {id : RecordId}
    {r : Record} (hr : t.tokens.records.get? id = some r) (hfamily : r.family = fam) :
    s.tokens.records.get? id = some r := by
  have hinv := hs.invariant (hd.of_reaches hst)
  have hevolves := hs.evolves hst hd
  rcases h with ⟨g, hg, hrevoked⟩
  rcases ((hs.trans hst).invariant hd).coherent.listed id r hr with ⟨g', hg', hmem⟩
  rw [hfamily, hevolves.families_of_revoked hg hrevoked] at hg'
  cases hg'
  rcases List.mem_iff_getElem?.mp hmem with ⟨k, hk⟩
  rcases hinv.coherent.filled fam g k id hg hk with ⟨q, hq, hfills⟩
  have hstate := hinv.revoked_of_withdrawn ⟨g, hg, hrevoked⟩ hq hfills.family
  have hlater := hevolves.get?_of_revoked hq hstate
  rw [hr] at hlater
  cases hlater
  exact hq

/-- No exchange in a withdrawn family succeeds. -/
theorem Withdrawn.not_exchanged {fam : FamilyId} (h : s.Withdrawn fam) {e : Entry}
    (he : e ∈ t.history) (hnew : e ∉ s.history) {id : RecordId} (hexchanges : e.turn.Exchanges id)
    {r : Record} (hr : t.tokens.records.get? id = some r) : r.family ≠ fam := by
  intro hfamily
  rcases hst.split_of_mem he hnew with ⟨u, v, hsu, htakes, huv, hvt⟩
  have hut : Reaches f u t := huv.trans hvt
  have hdu := hd.of_reaches hut
  have hinv := (hs.trans hsu).invariant hdu
  rcases (hinv.accounts htakes).exchanged id hexchanges with ⟨q, hq, hactive⟩
  rcases ((hs.trans hsu).evolves hut hd).records id q hq with ⟨r', hr', hqr⟩
  rw [hr] at hr'
  cases hr'
  have hrevoked := hinv.revoked_of_withdrawn (h.later hs hsu hdu) hq (hqr.family.symm.trans hfamily)
  rw [hactive] at hrevoked
  cases hrevoked

end Later

/-! # Every run -/

/-- Once a family has been withdrawn by whatever request, then in every later state: the family is
as it was; each of its records is withdrawn, was there before, and is the same that it was at any
moment at which it was withdrawn already; no exchange in it succeeds any more; and a refresh that
is answered with credentials of the family has made its exchange before the withdrawal. -/
theorem withdrawal_final {s t : Service} (hs : Reachable f s) (hst : Reaches f s t)
    (hd : t.DistinctIds) {e : Entry} (he : e ∈ s.history) {fam : FamilyId}
    (hwithdraws : e.turn.Withdraws fam) :
    (∃ g, s.tokens.families.get? fam = some g ∧ t.tokens.families.get? fam = some g) ∧
    (∀ id r, t.tokens.records.get? id = some r → r.family = fam →
      r.state = .revoked ∧ s.tokens.records.get? id = some r) ∧
    (∀ u, Reachable f u → Reaches f u t → ∀ id q r, u.tokens.records.get? id = some q →
      q.state = .revoked → t.tokens.records.get? id = some r →
      r.reason = q.reason ∧ r.revokedAt = q.revokedAt) ∧
    (∀ e' ∈ t.history, e' ∉ s.history → ∀ id, e'.turn.Exchanges id →
      ∀ r, t.tokens.records.get? id = some r → r.family ≠ fam) ∧
    (∀ i p tokens, t.Answered i (.refresh p) (.ok tokens) → tokens.family = fam →
      ∃ turn ∈ s.past i, ∃ id, turn.Exchanges id) := by
  have hinv := hs.invariant (hd.of_reaches hst)
  have hinv' := (hs.trans hst).invariant hd
  have hdrawn : s.Withdrawn fam := hinv.withdrawn_of_withdraws he hwithdraws
  have hnone := fun e' => hdrawn.not_exchanged hs hst hd (e := e')
  refine ⟨?_, ?_, ?_, ?_, ?_⟩
  · rcases hdrawn with ⟨g, hg, hrevoked⟩
    exact ⟨g, hg, (hs.evolves hst hd).families_of_revoked hg hrevoked⟩
  · intro id r hr hfamily
    have hbefore := hdrawn.record_of_later hs hst hd hr hfamily
    exact ⟨hinv.revoked_of_withdrawn hdrawn hbefore hfamily, hbefore⟩
  · intro u hu hut id q r hq hstate hr
    have hlater := (hu.evolves hut hd).get?_of_revoked hq hstate
    rw [hr] at hlater
    cases hlater
    exact ⟨rfl, rfl⟩
  · intro e' he' hnew id hexchanges r hr
    exact hnone e' he' hnew hexchanges hr
  · intro i p tokens hanswered hfamily
    rcases hinv'.exchanged_of_answered hanswered with
      ⟨r, next, hfound, hexchanged, hsame, _, _⟩
    rcases hinv'.get?_of_found hfound with ⟨_, q, hq, hrq⟩
    by_cases hold : exchanged r.id next .applied ∈ s.past i
    · exact ⟨_, hold, r.id, next, rfl⟩
    · have hnew : ⟨i, exchanged r.id next .applied⟩ ∉ s.history :=
        fun h => hold (mem_past.mpr h)
      have hother := hnone _ (mem_past.mp hexchanged) hnew ⟨next, rfl⟩ hq
      exact absurd (hrq.family.trans (hsame.trans hfamily)) hother

/-- A logout while a refresh has found the record active already, and has not exchanged it yet. -/
def Sample.loggedOut : Service :=
  Sample.underway.run Sample.facade
    (List.replicate 13 (.advance 0) ++ .start (.refresh Sample.secret) ::
      List.replicate 3 (.advance 2) ++ .start (.logout Sample.secret) ::
      List.replicate 6 (.advance 3))

def Sample.refused : Service :=
  Sample.loggedOut.run Sample.facade (List.replicate 16 (.advance 2))

/-- A logout is final for a refresh that has found the record active. -/
theorem withdrawal_final_loggedOut :
    Reachable Sample.facade Sample.loggedOut ∧
      Reaches Sample.facade Sample.loggedOut Sample.refused ∧ Sample.refused.DistinctIds ∧
      (∃ e ∈ Sample.loggedOut.history, e.turn.Withdraws Sample.family) ∧
      ∃ id r, Sample.refused.tokens.records.get? id = some r ∧ r.family = Sample.family ∧
        r.state = .revoked ∧ Sample.loggedOut.tokens.records.get? id = some r := by
  have hs : Reachable Sample.facade Sample.loggedOut := Sample.reachable_run _
  have hst : Reaches Sample.facade Sample.loggedOut Sample.refused := ⟨_, rfl⟩
  have hd : Sample.refused.DistinctIds := by
    unfold Sample.refused Sample.loggedOut
    rw [← run_append]
    exact Sample.distinctIds_run (by decide +kernel)
  have hrevoked : (Sample.loggedOut.tokens.families.get? Sample.family).any Family.isRevoked =
      true := by decide +kernel
  rcases (Option.any_eq_true _ _).mp hrevoked with ⟨g, hg, hg'⟩
  rcases (hs.invariant (hd.of_reaches hst)).withdrawn _ g hg hg' with ⟨e, he, hwithdraws⟩
  have hrecord : (Sample.refused.tokens.records.get? ⟨Uuid.ofNat 2⟩).any
      (fun r => r.family == Sample.family) = true := by decide +kernel
  rcases (Option.any_eq_true _ _).mp hrecord with ⟨r, hr, hfamily⟩
  rw [beq_iff_eq] at hfamily
  rcases withdrawal_final hs hst hd he hwithdraws with ⟨_, hrecords, _, _, _⟩
  rcases hrecords _ r hr hfamily with ⟨hstate, hbefore⟩
  exact ⟨hs, hst, hd, ⟨e, he, hwithdraws⟩, _, r, hr, hfamily, hstate, hbefore⟩

end Service

end SessionAuth
