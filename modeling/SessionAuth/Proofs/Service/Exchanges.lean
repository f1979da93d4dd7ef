import SessionAuth.Proofs.Refresh.Effects
import SessionAuth.Proofs.Service.Freshness
import SessionAuth.Proofs.Service.Races
import SessionAuth.Proofs.Service.Trail

/-!
# How an exchange can come out

A refresh has an answer to every outcome of its exchange, but not all of them come about.  The
record that it has found active is still there, and if it is not active any more then somebody else
has exchanged it or its family is withdrawn.  So whoever is told that a family is withdrawn, or that
a secret is unknown, is told the truth.
-/

namespace SessionAuth

open Time Refresh

namespace Refresh

/-! # Outcomes -/

/-- The outcomes that the exchange of a record that was found active can have. -/
def Transition.Foreseen (o : Transition) : Prop :=
  o = .applied ∨ o = .stateMismatch .consumed ∨ o = .familyRevoked

namespace Table

variable {t u : Table} {now : Instant} {id : RecordId} {next : Record} {o : Transition}

theorem transition_ne (hknown : ∃ q, t.records.get? id = some q)
    (h : t.transition now id .active .consumed (some next) = .ok (o, u)) :
    o ≠ .notFound ∧ o ≠ .stateMismatch .active := by
  cases transition_cases h with
  | notFound hnone =>
      rcases hknown with ⟨q, hq⟩
      rw [hnone] at hq
      cases hq
  | stateMismatch _ _ hstate => exact ⟨by simp, by simpa using hstate⟩
  | familyRevoked => exact ⟨by simp, by simp⟩
  | applied => exact ⟨by simp, by simp⟩

theorem Coherent.foreseen (ht : t.Coherent) (hknown : ∃ q, t.records.get? id = some q)
    (h : t.transition now id .active .consumed (some next) = .ok (o, u)) : o.Foreseen := by
  cases transition_cases h with
  | notFound => exact absurd rfl (transition_ne hknown h).left
  | applied => exact Or.inl rfl
  | familyRevoked => exact Or.inr (Or.inr rfl)
  | stateMismatch hrecord hopen hactive =>
      rename_i q
      -- A record that is withdrawn lies in a withdrawn family.
      rcases isClosed_eq_false.mp hopen with ⟨g, hg, hlive⟩
      have hrevoked := ht.revoked_iff hg hrecord rfl
      cases hstate : q.state with
      | active => exact absurd hstate hactive
      | consumed => exact Or.inr (Or.inl rfl)
      | revoked =>
          rw [hrevoked.mp hstate] at hlive
          cases hlive

theorem exists_outcome {r : Record} (now : Instant) (hr : t.records.get? r.id = some r)
    (hfamily : next.family = r.family) (hhash : t.byHash.get? next.tokenHash = none) :
    ∃ o u, t.transition now r.id .active .consumed (some next) = .ok (o, u) := by
  cases hclosed : t.isClosed r.family with
  | true =>
      refine ⟨.familyRevoked, t, ?_⟩
      unfold transition
      rw [hr]
      simp only [hclosed, if_true]
  | false =>
      by_cases hstate : r.state = .active
      · exact ⟨_, _, transition_of_open hr hstate hclosed hfamily hhash⟩
      · refine ⟨.stateMismatch r.state, t, ?_⟩
        unfold transition
        rw [hr]
        simp only [hclosed, Bool.false_eq_true, if_false, if_pos hstate]

end Table

end Refresh

namespace Service

variable {f : Session.Facade} {s : Service}

/-! # Exchanges that are about to be made -/

/-- A refresh that has found a record active and is about to exchange it. -/
structure Trades (s : Service) (i : Nat) (p : Secret) (r next : Record) : Prop where
  refresh : ∃ rest, s.tasks[i]? = some ⟨.refresh p, rest⟩
  read : found p (some r) ∈ s.past i
  active : r.state = .active
  family : next.family = r.family

/-- A transition is asked for by a refresh only, to exchange a record that it has found active. -/
theorem Reachable.trades (hs : Reachable f s) {i : Nat} {id : RecordId} {expected state : State}
    {successor : Option Record} (h : s.Awaits i (.transition id expected state successor)) :
    ∃ p r next, s.Trades i p r next ∧ id = r.id ∧ expected = .active ∧ state = .consumed ∧
      successor = some next := by
  rcases hs.asks h with ⟨q, htask, hasks⟩
  cases hasks with
  | exchange hcalls hactive husable hgeneration hissued =>
      rename_i p r x next generation secret
      refine ⟨p, r, next, ⟨htask, Turn.mem_of_calls hcalls (by simp), hactive, ?_⟩, rfl, rfl, rfl,
        rfl⟩
      cases hissued with
      | mk _ _ _ => rfl
  | inspect _ hreads => cases hreads

section Outcomes

variable (hs : Reachable f s) {i : Nat} {id : RecordId} {expected state : State}
  {successor : Option Record} (h : s.Awaits i (.transition id expected state successor))
include hs h

theorem Reachable.outcome_ne {now : Instant} {o : Transition} {u : Store}
    (hperform : s.world.store.perform now (.transition id expected state successor) = .ok (o, u)) :
    o ≠ .notFound ∧ o ≠ .stateMismatch .active := by
  rcases hs.trades h with ⟨p, r, next, htrades, rfl, rfl, rfl, rfl⟩
  exact Table.transition_ne (hs.known_of_found htrades.read)
    (Store.perform_transition hperform).left

variable (hd : s.DistinctIds)
include hd

theorem Reachable.foreseen {now : Instant} {o : Transition} {u : Store}
    (hperform : s.world.store.perform now (.transition id expected state successor) = .ok (o, u)) :
    o.Foreseen := by
  rcases hs.trades h with ⟨p, r, next, htrades, rfl, rfl, rfl, rfl⟩
  exact (hs.invariant hd).coherent.foreseen (hs.known_of_found htrades.read)
    (Store.perform_transition hperform).left

/-- The store carries the exchange out, whatever comes out. -/
theorem Reachable.exists_outcome (hd' : s.DistinctSecrets) (now : Instant) :
    ∃ o u, s.world.store.perform now (.transition id expected state successor) = .ok (o, u) := by
  rcases hs.trades h with ⟨p, r, next, htrades, rfl, rfl, rfl, rfl⟩
  have hhash : s.tokens.byHash.get? next.tokenHash = none :=
    hs.byHash_eq_none hd hd' h (a := Transition.applied) (Or.inr ⟨_, rfl⟩)
  rcases (hs.invariant hd).get?_of_found htrades.read with ⟨_, q, hq, hrq⟩
  rw [← hrq.id] at hq ⊢
  rcases Table.exists_outcome now hq (htrades.family.trans hrq.family.symm) hhash with
    ⟨o, u, htransition⟩
  refine ⟨o, { s.world.store with tokens := u }, ?_⟩
  unfold Store.perform
  simp only [htransition]
  rfl

end Outcomes

/-! # What a refused refresh is told -/

/-- Why a refused refresh says that it was refused.  If it says that the secret is unknown then it
has found nothing, and if it says that a family is withdrawn then the family is that of the record
that it has found, and it is withdrawn. -/
structure Told (f : Session.Facade) (s : Service) (i : Nat) (p : Secret) (failure : Failure)
    (j : Session.Rejection) : Prop where
  failure_eq : failure = j.failure
  reported : failure ≠ .reuseDetected → s.Reports i .refreshRejected j.subject? .failure
    [("family_id", .optionalString (j.family?.map Id.text)), ("reason", .string j.code)]
  absent : j = .unknown → HasFound f s i p none
  withdrawn : ∀ subject fam, j = .familyRevoked subject fam →
    (∃ r, HasFound f s i p (some r) ∧ r.subject = subject ∧ r.family = fam) ∧ s.Withdrawn fam

theorem Reachable.exists_told (hs : Reachable f s) (hd : s.DistinctIds) {i : Nat} {p : Secret}
    {failure : Failure} (h : s.Answered i (.refresh p) (.error failure)) :
    ∃ j, Told f s i p failure j := by
  have hinv := hs.invariant hd
  rcases rests_of_refresh (hs.yields h) with ⟨y, j, more, rfl, hread, hrests, hmore, hreport⟩
  have hfound := hs.hasFound hread
  refine ⟨j, rfl, ?_, ?_, ?_⟩
  · intro hother
    exact hs.reports h ((reported_of_reportRejection hother hreport).mono hmore)
  · rintro rfl
    cases hrests with
    | absent hnone =>
        cases hs.eq_none_of_filter hd hread hnone
        exact hfound
    | missing hexchanged => exact absurd (hinv.attested _ (mem_past.mp hexchanged)) id
  · rintro subject fam rfl
    cases hrests with
    | withdrawn hstate =>
        rcases hinv.get?_of_found hread with ⟨_, q, hq, hrq⟩
        rw [hrq.revoked hstate] at hq
        exact ⟨⟨_, hfound, rfl, rfl⟩, hinv.withdrawn_of_found_revoked hread hq hstate⟩
    | lost hexchanged hlost hmatch =>
        exact ⟨⟨_, hfound, rfl, rfl⟩, hinv.withdrawn_of_late hread hexchanged hlost hmatch⟩

/-! # Every run -/

/-- In every run, whatever other requests are in flight.  Records never disappear, and a transition
is asked for by a refresh only, for a record that it has found active; so it is not told that there
is no such record, nor that the record is active and not as expected.  If the identifiers that were
drawn are distinct then a withdrawn record lies in a withdrawn family, so a transition does nothing
else than exchange the record, report it as exchanged before, or report the family as withdrawn, and
a refresh that is told of an unknown secret or of a withdrawn family is told the truth.  If the
hashes of the secrets are distinct too then the store carries every transition out. -/
theorem exchanges_foreseen {s : Service} (hs : Reachable f s) :
    (∀ t, Reaches f s t → ∀ id, s.tokens.records.contains id = true →
      t.tokens.records.contains id = true) ∧
    (∀ i id expected state successor, s.Awaits i (.transition id expected state successor) →
      (∃ p r next, s.Trades i p r next ∧ id = r.id ∧ expected = .active ∧ state = .consumed ∧
        successor = some next) ∧
      ∀ now o u, s.world.store.perform now (.transition id expected state successor) = .ok (o, u) →
        o ≠ .notFound ∧ o ≠ .stateMismatch .active) ∧
    (s.DistinctIds →
      (∀ id r, s.tokens.records.get? id = some r → r.state = .revoked → s.Withdrawn r.family) ∧
      (∀ i id expected state successor, s.Awaits i (.transition id expected state successor) →
        ∀ now o u,
          s.world.store.perform now (.transition id expected state successor) = .ok (o, u) →
            o.Foreseen) ∧
      (∀ i id expected state successor o,
        Turn.answered (.transition id expected state successor) o ∈ s.past i → o.Foreseen) ∧
      ∀ i p failure, s.Answered i (.refresh p) (.error failure) → ∃ j, Told f s i p failure j) ∧
    (s.DistinctIds → s.DistinctSecrets → ∀ i id expected state successor,
      s.Awaits i (.transition id expected state successor) → ∀ now, ∃ o u,
        s.world.store.perform now (.transition id expected state successor) = .ok (o, u)) := by
  refine ⟨?_, ?_, ?_, ?_⟩
  · intro t hst id hid
    exact (hs.covers hst).known id hid
  · intro i id expected state successor h
    exact ⟨hs.trades h, fun now o u hperform => hs.outcome_ne h hperform⟩
  · intro hd
    refine ⟨?_, ?_, ?_, ?_⟩
    · intro id r hr hstate
      have hcoherent := (hs.invariant hd).coherent
      rcases hcoherent.listed id r hr with ⟨g, hg, _⟩
      exact ⟨g, hg, (hcoherent.revoked_iff hg hr rfl).mp hstate⟩
    · intro i id expected state successor h now o u hperform
      exact hs.foreseen h hd hperform
    · intro i id expected state successor o hturn
      rcases hs.performed_of_mem hturn with ⟨u, v, now, hmoment, hperform⟩
      exact hmoment.before.foreseen hmoment.takes.awaits (hd.of_reaches hmoment.reaches) hperform
    · intro i p failure h
      exact hs.exists_told hd h
  · intro hd hd' i id expected state successor h now
    exact hs.exists_outcome h hd hd' now

def awaited? (s : Service) (i : Nat) : Option Store.Call :=
  match s.tasks[i]? with
  | some ⟨_, .step (.store c) _⟩ => some c
  | _ => none

theorem awaits_of_awaited? {i : Nat} {c : Store.Call} (h : s.awaited? i = some c) :
    s.Awaits i c := by
  unfold awaited? at h
  split at h
  case h_1 q c' next htask =>
      cases h
      exact ⟨q, next, htask⟩
  case h_2 => cases h

namespace Sample

def trading : Service :=
  loggedOut.run facade (List.replicate 5 (.advance 2))

def exchanges : Store.Call → Bool
  | .transition _ _ _ _ => true
  | _ => false

theorem awaits_trading : ∃ id expected state successor,
    trading.Awaits 2 (.transition id expected state successor) := by
  have hawaited : (trading.awaited? 2).any exchanges = true := by decide +kernel
  rcases (Option.any_eq_true _ _).mp hawaited with ⟨c, hc, htransition⟩
  cases c with
  | transition id expected state successor =>
      exact ⟨id, expected, state, successor, awaits_of_awaited? hc⟩
  | _ => cases htransition

theorem answered_refused : ∃ failure, refused.Answered 2 (.refresh secret) (.error failure) := by
  have hanswer : (refused.answer? 2 (.refresh secret)).any
      (fun (a : Except Failure Session.Tokens) => !a.isOk) = true := by decide +kernel
  rcases (Option.any_eq_true _ _).mp hanswer with ⟨a, ha, herror⟩
  cases a with
  | ok tokens => cases herror
  | error failure => exact ⟨failure, answered_of_answer? ha⟩

theorem drawn_refused :
    refused.world.drawn.ids ≤ Nat.pow 256 16 ∧ refused.world.drawn.secrets ≤ 2 := by
  decide +kernel

theorem distinctIds_refused : refused.DistinctIds := by
  have hdrawn := drawn_refused.left
  unfold refused loggedOut at hdrawn ⊢
  rw [← run_append] at hdrawn ⊢
  exact distinctIds_run hdrawn

theorem reaches_refused : Reaches facade trading refused :=
  ⟨List.replicate 11 (.advance 2), (run_append _ _ _).symm⟩

theorem distinctSecrets_trading : trading.DistinctSecrets := by
  have hdrawn : trading.world.drawn.secrets ≤ 2 :=
    Nat.le_trans reaches_refused.precedes.secrets drawn_refused.right
  have hsupply : trading.world.supply = supply := by
    unfold trading loggedOut
    rw [← run_append]
    exact Reaches.supply_eq (f := facade) (s := underway) ⟨_, rfl⟩
  have hdistinct : ∀ m < 2, ∀ n < 2,
      (supply.secrets m).hash = (supply.secrets n).hash → m = n := by decide +kernel
  intro m n hm hn heq
  rw [hsupply] at heq
  exact hdistinct m (Nat.lt_of_lt_of_le hm hdrawn) n (Nat.lt_of_lt_of_le hn hdrawn) heq

end Sample

open Sample

/-- The exchange of a refresh that a logout has overtaken comes out as foreseen, and the refresh is
told the truth. -/
theorem exchanges_foreseen_loggedOut :
    Reachable facade trading ∧ trading.DistinctIds ∧ trading.DistinctSecrets ∧
      (∃ id expected state successor,
        trading.Awaits 2 (.transition id expected state successor) ∧
          ∀ now, ∃ o u, trading.world.store.perform now
            (.transition id expected state successor) = .ok (o, u) ∧ o.Foreseen) ∧
      Reachable facade refused ∧ refused.DistinctIds ∧
      ∃ failure j, refused.Answered 2 (.refresh secret) (.error failure) ∧
        Told facade refused 2 secret failure j := by
  have hs : Reachable facade trading := (reachable_run _).trans ⟨_, rfl⟩
  have hs' : Reachable facade refused := (reachable_run _).trans ⟨_, rfl⟩
  have hd : trading.DistinctIds := distinctIds_refused.of_reaches reaches_refused
  rcases exchanges_foreseen hs with ⟨_, _, hforeseen, hcarried⟩
  rcases exchanges_foreseen hs' with ⟨_, _, htold, _⟩
  rcases hforeseen hd with ⟨_, houtcome, _⟩
  rcases htold distinctIds_refused with ⟨_, _, _, htold⟩
  rcases awaits_trading with ⟨id, expected, state, successor, hawaits⟩
  rcases answered_refused with ⟨failure, hanswered⟩
  rcases htold 2 secret failure hanswered with ⟨j, hj⟩
  refine ⟨hs, hd, distinctSecrets_trading, ⟨id, expected, state, successor, hawaits, ?_⟩, hs',
    distinctIds_refused, failure, j, hanswered, hj⟩
  intro now
  rcases hcarried hd distinctSecrets_trading 2 id expected state successor hawaits now with
    ⟨o, u, hperform⟩
  exact ⟨o, u, hperform, houtcome 2 id expected state successor hawaits now o u hperform⟩

end Service

end SessionAuth
