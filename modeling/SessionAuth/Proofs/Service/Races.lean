import Mathlib.Data.List.Infix
import SessionAuth.Proofs.Service.Moments
import SessionAuth.Proofs.Service.Withdrawal

/-!
# Races for a secret

Of all refreshes that ever present one secret at most one gets new credentials.  Any other that
has read the record of the secret in time takes the family down, or finds it down already.
-/

namespace SessionAuth

open Time Refresh

namespace Service

variable {f : Session.Facade}

/-! # Readings in time -/

/-- Turns in which no reading of the clock, where one follows the reading of the record of a
secret, shows that the record has expired. -/
def InTime (p : Secret) (past : List Turn) : Prop :=
  ∀ r t more, past = found p (some r) :: ⟨.clock, t⟩ :: more → r.isExpired t = false

/-- Turns in which the record of a secret was read before it had expired. -/
def ReadInTime (p : Secret) (past : List Turn) : Prop :=
  (∃ r, found p (some r) ∈ past) ∧ InTime p past

def finds (p : Secret) : Turn → Bool
  | ⟨.store (.findByHash hash), .ok (some _)⟩ => hash == p.hash
  | _ => false

def startsInTime : List Turn → Bool
  | ⟨.store (.findByHash _), .ok (some r)⟩ :: ⟨.clock, t⟩ :: _ => !r.isExpired t
  | _ => true

theorem readInTime_of_check {p : Secret} {past : List Turn}
    (h : (past.any (finds p) && startsInTime past) = true) : ReadInTime p past := by
  rw [Bool.and_eq_true, List.any_eq_true] at h
  rcases h with ⟨⟨turn, hturn, hfinds⟩, htime⟩
  constructor
  · unfold finds at hfinds
    split at hfinds
    case h_1 hash r =>
        rw [beq_iff_eq] at hfinds
        rw [hfinds] at hturn
        exact ⟨r, hturn⟩
    case h_2 => cases hfinds
  · intro r t more heq
    subst heq
    simpa [startsInTime] using htime

namespace Invariant

variable {s : Service} (hs : Invariant f s)
include hs

/-- All that was ever found for a secret is one record. -/
theorem found_same {i j : Nat} {p : Secret} {r r' : Record} (h : found p (some r) ∈ s.past i)
    (h' : found p (some r') ∈ s.past j) : r.id = r'.id ∧ r.family = r'.family := by
  rcases hs.get?_of_found h with ⟨hhash, q, hq, hrq⟩
  rcases hs.get?_of_found h' with ⟨hhash', q', hq', hrq'⟩
  have hid := (hs.coherent.indexed p.hash r.id).mpr ⟨q, hq, hrq.tokenHash.trans hhash⟩
  have hid' := (hs.coherent.indexed p.hash r'.id).mpr ⟨q', hq', hrq'.tokenHash.trans hhash'⟩
  rw [hid] at hid'
  have hsame := Option.some.inj hid'
  rw [hsame, hq'] at hq
  cases hq
  exact ⟨hsame, hrq.family.symm.trans hrq'.family⟩

theorem withdrawn_of_found_revoked {i : Nat} {p : Secret} {r : Record}
    (h : found p (some r) ∈ s.past i) {q : Record} (hq : s.tokens.records.get? r.id = some q)
    (hstate : q.state = .revoked) : s.Withdrawn r.family := by
  rcases hs.get?_of_found h with ⟨_, q', hq', hrq⟩
  rw [hq] at hq'
  cases hq'
  rcases hs.coherent.listed r.id q hq with ⟨g, hg, _⟩
  have hrevoked := (hs.coherent.revoked_iff hg hq rfl).mp hstate
  rw [hrq.family] at hg
  exact ⟨g, hg, hrevoked⟩

theorem withdrawn_of_withdrew {i j : Nat} {p : Secret} {r r' : Record} {reason : Reason} {n : Nat}
    (hread : found p (some r) ∈ s.past i) (hfound : found p (some r') ∈ s.past j)
    (h : withdrew r'.family reason n ∈ s.past j) : s.Withdrawn r.family := by
  rw [(hs.found_same hread hfound).right]
  exact hs.withdrawn_of_withdraws (mem_past.mp h) (Or.inl ⟨reason, n, rfl⟩)

theorem withdrawn_of_late {i : Nat} {p : Secret} {r next : Record} {o : Transition}
    (hfound : found p (some r) ∈ s.past i) (h : exchanged r.id next o ∈ s.past i)
    (hlost : o ≠ .applied) (hmatch : o ≠ .stateMismatch .consumed) : s.Withdrawn r.family := by
  have hattested := hs.attested _ (mem_past.mp h)
  cases o with
  | applied => exact absurd rfl hlost
  | notFound => exact absurd hattested id
  | familyRevoked =>
      rcases hattested with ⟨q, hq, hstate⟩
      exact hs.withdrawn_of_found_revoked hfound hq hstate
  | stateMismatch state =>
      rcases hattested with ⟨rfl, _⟩
      exact absurd rfl hmatch

/-- A refresh that has read the record of its secret in time and gets no new credentials leaves
the family withdrawn. -/
theorem withdrawn_of_refused {j : Nat} {p : Secret} {r : Record} {failure : Failure}
    (h : s.Answered j (.refresh p) (.error failure)) (hread : found p (some r) ∈ s.past j)
    (htime : InTime p (s.past j)) : s.Withdrawn r.family := by
  rcases h.ends hs with ⟨x, hrotates, hx⟩
  cases hrotates with
  | renewed => cases hx
  | unknown hcalls hnone =>
      rename_i a
      have hcall := Turn.mem_calls_store.mpr hread
      rw [hcalls] at hcall
      have ha : a = some r := by simpa using (List.mem_singleton.mp hcall).symm
      rw [ha, Option.filter_eq_none_iff] at hnone
      refine absurd ?_ (hnone r rfl)
      simp [Record.belongsTo, (hs.get?_of_found hread).left]
  | withdrawn hcalls hstate =>
      rename_i r'
      have hfound : found p (some r') ∈ s.past j := Turn.mem_of_calls hcalls (by simp)
      rcases hs.get?_of_found hfound with ⟨_, q, hq, hrq⟩
      rw [(hs.found_same hread hfound).right]
      rw [hrq.revoked hstate] at hq
      exact hs.withdrawn_of_found_revoked hfound hq hstate
  | expired hpast _ hexpired =>
      rw [htime _ _ _ hpast] at hexpired
      cases hexpired
  | reused hcalls hhash hstate =>
      rename_i r' n
      have hfound : found p (some r') ∈ s.past j := Turn.mem_of_calls hcalls (by simp)
      have hwithdrew : withdrew r'.family .reuseDetected n ∈ s.past j :=
        Turn.mem_of_calls hcalls (by simp)
      exact hs.withdrawn_of_withdrew hread hfound hwithdrew
  | unusable hcalls hstate husable =>
      rename_i r' y n
      have hfound : found p (some r') ∈ s.past j := Turn.mem_of_calls hcalls (by simp)
      have hwithdrew : withdrew r'.family .subjectRevoked n ∈ s.past j :=
        Turn.mem_of_calls hcalls (by simp)
      exact hs.withdrawn_of_withdrew hread hfound hwithdrew
  | raced hcalls hhash hstate husable =>
      rename_i r' y next n
      have hfound : found p (some r') ∈ s.past j := Turn.mem_of_calls hcalls (by simp)
      have hwithdrew : withdrew r'.family .reuseDetected n ∈ s.past j :=
        Turn.mem_of_calls hcalls (by simp)
      exact hs.withdrawn_of_withdrew hread hfound hwithdrew
  | late hcalls hstate husable hlost hmatch hrejection =>
      rename_i r' y next o rejection
      have hfound : found p (some r') ∈ s.past j := Turn.mem_of_calls hcalls (by simp)
      have hexchanged : exchanged r'.id next o ∈ s.past j := Turn.mem_of_calls hcalls (by simp)
      rw [(hs.found_same hread hfound).right]
      exact hs.withdrawn_of_late hfound hexchanged hlost hmatch

/-- At most one refresh with a secret gets new credentials. -/
theorem winner_unique {i j : Nat} {p : Secret} {a b : Session.Tokens}
    (hi : s.Answered i (.refresh p) (.ok a)) (hj : s.Answered j (.refresh p) (.ok b)) : i = j := by
  rcases hs.exchanged_of_answered hi with ⟨r, next, hfound, hexchanged, _⟩
  rcases hs.exchanged_of_answered hj with ⟨r', next', hfound', hexchanged', _⟩
  rw [(hs.found_same hfound hfound').left] at hexchanged
  have heq := hs.exclusive _ (mem_past.mp hexchanged) _ (mem_past.mp hexchanged') r'.id
    ⟨next, rfl⟩ ⟨next', rfl⟩
  injection heq

theorem successor_of_answered {i : Nat} {p : Secret} {tokens : Session.Tokens}
    (h : s.Answered i (.refresh p) (.ok tokens)) :
    ∃ q, s.tokens.findByHash tokens.refresh.hash = some q ∧ q.family = tokens.family := by
  rcases hs.exchanged_of_answered h with ⟨r, next, _, hexchanged, _, hfamily, hhash⟩
  have hattested := hs.attested _ (mem_past.mp hexchanged)
  rcases hattested.right next rfl with ⟨q, hq, hnext⟩
  refine ⟨q, ?_, hnext.family.trans hfamily⟩
  rw [← hhash, ← hnext.tokenHash]
  exact hs.coherent.findByHash_of_get? hq

theorem family_of_presented {i : Nat} {p : Secret} {tokens : Session.Tokens}
    (h : s.Answered i (.refresh p) (.ok tokens)) {r : Record}
    (hr : s.tokens.findByHash p.hash = some r) : r.family = tokens.family := by
  rcases hs.exchanged_of_answered h with ⟨r', next, hfound, _, hfamily, _⟩
  rcases hs.get?_of_found hfound with ⟨hhash, q, hq, hrq⟩
  have hsame := hs.coherent.findByHash_of_get? hq
  rw [hrq.tokenHash, hhash, hr] at hsame
  cases hsame
  exact hrq.family.trans hfamily

end Invariant

/-!
# Races

Some refreshes present the secret of an active record.  Its subject stays usable all the time, and
nobody else exchanges the record or withdraws its family.
-/

def Touches (r : Record) : Effect → Prop
  | .store (.transition id _ _ _) => id = r.id
  | .store (.revokeFamily fam _) => fam = r.family
  | .store (.revokeSubjectFamilies subject _) => subject = r.subject
  | _ => False

/-- A race of some refreshes for a secret, from a state on and during some actions. -/
structure Race (f : Session.Facade) (s : Service) (actions : List Action) (p : Secret)
    (r : Record) (racers : List Nat) : Prop where
  present : s.tokens.findByHash p.hash = some r
  active : r.state = .active
  several : 2 ≤ racers.length
  distinct : racers.Nodup
  unstarted : ∀ i ∈ racers, s.past i = []
  completed : ∀ i ∈ racers, ∃ a, (s.run f actions).Answered i (.refresh p) a
  unexpired : ∀ i ∈ racers, InTime p ((s.run f actions).past i)
  usable : ∀ pre, pre <+: actions →
    ∃ x, (s.run f pre).world.store.subjects.findById r.subject = some x ∧ x.isUsable = true
  undisturbed : ∀ e ∈ (s.run f actions).history, e ∉ s.history → Touches r e.turn.effect →
    e.task ∈ racers

namespace Race

variable {s : Service} {actions : List Action} {p : Secret} {r : Record} {racers : List Nat}
  (h : Race f s actions p r racers) (hs : Reachable f s) (hd : (s.run f actions).DistinctIds)
include h

theorem taken {i : Nat} (hi : i ∈ racers) {turn : Turn}
    (hturn : turn ∈ (s.run f actions).past i) :
    ∃ pre, pre <+: actions ∧ ∃ v, Takes (s.run f pre) ⟨i, turn⟩ v := by
  rcases taken_since (h.unstarted i hi) hturn with ⟨pre, hpre, v, htakes, _⟩
  exact ⟨pre, hpre, v, htakes⟩

theorem usable_of_knows {i : Nat} (hi : i ∈ racers) {x : Option Subject}
    (hturn : knows r.subject x ∈ (s.run f actions).past i) :
    ∃ y, x = some y ∧ y.isUsable = true := by
  rcases h.taken hi hturn with ⟨pre, hpre, v, htakes⟩
  rcases htakes.perform with ⟨now, hperform⟩
  rw [Store.perform_findById hperform]
  exact h.usable pre hpre

include hs hd

theorem evolves {pre : List Action} (hpre : pre <+: actions) :
    s.tokens.Evolves (s.run f pre).tokens := by
  rcases hpre with ⟨post, rfl⟩
  have hrest : Reaches f (s.run f pre) (s.run f (pre ++ post)) := ⟨post, (run_append _ _ _).symm⟩
  exact hs.evolves ⟨pre, rfl⟩ (hd.of_reaches hrest)

theorem found_of_racer {i : Nat} (hi : i ∈ racers) {a : Option Record}
    (hturn : found p a ∈ (s.run f actions).past i) :
    ∃ q, a = some q ∧ r.Evolves q := by
  rcases h.taken hi hturn with ⟨pre, hpre, v, htakes⟩
  rcases htakes.perform with ⟨now, hperform⟩
  rw [Store.perform_findByHash hperform]
  exact (h.evolves hs hd hpre).findByHash h.present

end Race

/-! # Outcomes of a race -/

theorem mem_calls_of_withdraws {past : List Turn} {turn : Turn} (h : turn ∈ past) {fam : FamilyId}
    (hwithdraws : turn.Withdraws fam) : turn ∈ Turn.calls past := by
  rcases hwithdraws with ⟨reason, n, rfl⟩ | ⟨subject, reason, families, rfl, _⟩
  · exact Turn.mem_calls_store.mpr h
  · exact Turn.mem_calls_store.mpr h

theorem mem_calls_of_exchanges {past : List Turn} {turn : Turn} (h : turn ∈ past) {id : RecordId}
    (hexchanges : turn.Exchanges id) : turn ∈ Turn.calls past := by
  rcases hexchanges with ⟨next, rfl⟩
  exact Turn.mem_calls_store.mpr h

/-- How a racer can end: it wins, or it learns of an earlier exchange, or it comes too late for
both. -/
inductive Outcome (t : Service) (p : Secret) (r : Record) (i : Nat) : Prop where
  | won {a : Session.Tokens} (hanswered : t.Answered i (.refresh p) (.ok a))
      (hquiet : ∀ turn ∈ t.past i, ¬ turn.Withdraws r.family)
  | detected (hanswered : t.Answered i (.refresh p) (.error .reuseDetected))
      (hexchanged : ∃ e ∈ t.history, e.turn.Exchanges r.id)
      (hlost : ∀ turn ∈ t.past i, ¬ turn.Exchanges r.id)
  | late (hanswered : t.Answered i (.refresh p) (.error .invalidCredential))
      (hwithdrawn : t.Withdrawn r.family)
      (hquiet : ∀ turn ∈ t.past i, ¬ turn.Withdraws r.family)
      (hlost : ∀ turn ∈ t.past i, ¬ turn.Exchanges r.id)

theorem not_withdraws_of_calls {past rest : List Turn} (hcalls : Turn.calls past = rest)
    (hrest : ∀ fam reason n, withdrew fam reason n ∉ rest)
    (hsweep : ∀ subject reason families, swept subject reason families ∉ rest) {fam : FamilyId} :
    ∀ turn ∈ past, ¬ turn.Withdraws fam := by
  intro turn hturn hwithdraws
  have hmem := mem_calls_of_withdraws hturn hwithdraws
  rw [hcalls] at hmem
  rcases hwithdraws with ⟨reason, n, rfl⟩ | ⟨subject, reason, families, rfl, _⟩
  · exact hrest _ _ _ hmem
  · exact hsweep _ _ _ hmem

theorem not_exchanges_of_calls {past rest : List Turn} (hcalls : Turn.calls past = rest)
    (hrest : ∀ id next, exchanged id next .applied ∉ rest) {id : RecordId} :
    ∀ turn ∈ past, ¬ turn.Exchanges id := by
  intro turn hturn hexchanges
  have hmem := mem_calls_of_exchanges hturn hexchanges
  rw [hcalls] at hmem
  rcases hexchanges with ⟨next, rfl⟩
  exact hrest _ _ hmem

namespace Race

variable {s : Service} {actions : List Action} {p : Secret} {r : Record} {racers : List Nat}
  (h : Race f s actions p r racers) (hs : Reachable f s) (hd : (s.run f actions).DistinctIds)
include h hs hd

theorem outcome {i : Nat} (hi : i ∈ racers) : Outcome (s.run f actions) p r i := by
  have hinv : Invariant f (s.run f actions) := (hs.trans ⟨actions, rfl⟩).invariant hd
  rcases h.completed i hi with ⟨a, hanswered⟩
  rcases hanswered.ends hinv with ⟨x, hrotates, rfl⟩
  cases hrotates with
  | renewed hcalls hhash hstate husable hgeneration hissued =>
      exact Outcome.won hanswered (not_withdraws_of_calls hcalls (by simp) (by simp))
  | unknown hcalls hnone =>
      rename_i a
      have hfound : found p a ∈ (s.run f actions).past i := Turn.mem_of_calls hcalls (by simp)
      rcases h.found_of_racer hs hd hi hfound with ⟨q, rfl, _⟩
      rw [Option.filter_eq_none_iff] at hnone
      refine absurd ?_ (hnone q rfl)
      simp [Record.belongsTo, (hinv.get?_of_found hfound).left]
  | withdrawn hcalls hstate =>
      rename_i q
      have hfound : found p (some q) ∈ (s.run f actions).past i :=
        Turn.mem_of_calls hcalls (by simp)
      rcases h.found_of_racer hs hd hi hfound with ⟨_, ⟨⟩, hq⟩
      rcases hinv.get?_of_found hfound with ⟨_, q', hq', hevolves⟩
      have hwithdrawn := hinv.withdrawn_of_found_revoked hfound hq'
        (by rw [hevolves.revoked hstate]; exact hstate)
      rw [hq.family] at hwithdrawn
      exact Outcome.late hanswered hwithdrawn (not_withdraws_of_calls hcalls (by simp) (by simp))
        (not_exchanges_of_calls hcalls (by simp))
  | expired hpast _ hexpired =>
      rw [h.unexpired i hi _ _ _ hpast] at hexpired
      cases hexpired
  | reused hcalls hhash hstate =>
      rename_i q n
      have hfound : found p (some q) ∈ (s.run f actions).past i :=
        Turn.mem_of_calls hcalls (by simp)
      rcases h.found_of_racer hs hd hi hfound with ⟨_, ⟨⟩, hq⟩
      have hseen := hinv.seen _ (mem_past.mp hfound) q.id (Or.inl ⟨p.hash, q, rfl, rfl, hstate⟩)
      rw [hq.id] at hseen
      exact Outcome.detected hanswered hseen (not_exchanges_of_calls hcalls (by simp))
  | unusable hcalls hstate husable =>
      rename_i q x n
      have hfound : found p (some q) ∈ (s.run f actions).past i :=
        Turn.mem_of_calls hcalls (by simp)
      have hknows : knows q.subject x ∈ (s.run f actions).past i :=
        Turn.mem_of_calls hcalls (by simp)
      rcases h.found_of_racer hs hd hi hfound with ⟨_, ⟨⟩, hq⟩
      rw [hq.subject] at hknows
      rcases h.usable_of_knows hi hknows with ⟨y, rfl, hy⟩
      rw [husable y rfl] at hy
      cases hy
  | raced hcalls hhash hstate husable =>
      rename_i q x next n
      have hfound : found p (some q) ∈ (s.run f actions).past i :=
        Turn.mem_of_calls hcalls (by simp)
      have hmismatch : exchanged q.id next (.stateMismatch .consumed) ∈
          (s.run f actions).past i := Turn.mem_of_calls hcalls (by simp)
      rcases h.found_of_racer hs hd hi hfound with ⟨_, ⟨⟩, hq⟩
      have hseen := hinv.seen _ (mem_past.mp hmismatch) q.id (Or.inr ⟨next, rfl⟩)
      rw [hq.id] at hseen
      exact Outcome.detected hanswered hseen (not_exchanges_of_calls hcalls (by simp))
  | late hcalls hstate husable hlost hmatch hrejection =>
      rename_i q x next o rejection
      have hfound : found p (some q) ∈ (s.run f actions).past i :=
        Turn.mem_of_calls hcalls (by simp)
      have hexchanged : exchanged q.id next o ∈ (s.run f actions).past i :=
        Turn.mem_of_calls hcalls (by simp)
      rcases h.found_of_racer hs hd hi hfound with ⟨_, ⟨⟩, hq⟩
      have hwithdrawn := hinv.withdrawn_of_late hfound hexchanged hlost hmatch
      rw [hq.family] at hwithdrawn
      have hfailure : renewal f (.error rejection) = .error .invalidCredential := by
        rw [← hrejection]
        rfl
      rw [hfailure] at hanswered
      refine Outcome.late hanswered hwithdrawn (not_withdraws_of_calls hcalls (by simp) (by simp))
        (not_exchanges_of_calls hcalls ?_)
      intro id next' hmem
      simp at hmem
      exact hlost hmem.2.symm

theorem record_at_ends :
    s.tokens.records.get? r.id = some r ∧
      ∃ q, (s.run f actions).tokens.records.get? r.id = some q ∧ r.Evolves q := by
  have hbefore := hs.invariant (hd.of_reaches ⟨actions, rfl⟩)
  have hrecord := (hbefore.coherent.get?_of_findByHash h.present).left
  exact ⟨hrecord, (h.evolves hs hd (List.prefix_refl _)).records r.id r hrecord⟩

theorem won_of_exchanges {e : Entry} (he : e ∈ (s.run f actions).history)
    (hexchanges : e.turn.Exchanges r.id) :
    e.task ∈ racers ∧ ∃ a, (s.run f actions).Answered e.task (.refresh p) (.ok a) := by
  have hbefore := hs.invariant (hd.of_reaches ⟨actions, rfl⟩)
  have hnew : e ∉ s.history := by
    intro hold
    rcases hexchanges with ⟨next, heq⟩
    have hattested := hbefore.attested e hold
    rw [heq] at hattested
    rcases hattested.left with ⟨q, hq, hspent⟩
    rw [(h.record_at_ends hs hd).left] at hq
    cases hq
    exact hspent h.active
  have hracer : e.task ∈ racers := by
    apply h.undisturbed e he hnew
    rcases hexchanges with ⟨next, heq⟩
    rw [heq]
    rfl
  refine ⟨hracer, ?_⟩
  cases h.outcome hs hd hracer with
  | won hanswered _ => exact ⟨_, hanswered⟩
  | detected _ _ hlost => exact absurd hexchanges (hlost _ (mem_past.mpr he))
  | late _ _ _ hlost => exact absurd hexchanges (hlost _ (mem_past.mpr he))

/-- The family is only withdrawn by a racer that has learned of an exchange. -/
theorem detected_of_withdrawn (hwithdrawn : (s.run f actions).Withdrawn r.family) :
    (∃ i ∈ racers, (s.run f actions).Answered i (.refresh p) (.error .reuseDetected)) ∧
      ∃ e ∈ (s.run f actions).history, e.turn.Exchanges r.id := by
  have hbefore := hs.invariant (hd.of_reaches ⟨actions, rfl⟩)
  have hinv : Invariant f (s.run f actions) := (hs.trans ⟨actions, rfl⟩).invariant hd
  rcases h.record_at_ends hs hd with ⟨hrecord, q, hq, hrq⟩
  rcases hwithdrawn with ⟨g, hg, hrevoked⟩
  rcases hinv.withdrawn r.family g hg hrevoked with ⟨e, he, hwithdraws⟩
  have hnew : e ∉ s.history := by
    intro hold
    have hstate := hbefore.revoked_of_withdrawn (hbefore.withdrawn_of_withdraws hold hwithdraws)
      hrecord rfl
    rw [h.active] at hstate
    cases hstate
  have hracer : e.task ∈ racers := by
    apply h.undisturbed e he hnew
    rcases hwithdraws with ⟨reason, n, heq⟩ | ⟨subject, reason, families, heq, hmem⟩
    · rw [heq]
      rfl
    · have hattested := hinv.attested e he
      rw [heq] at hattested ⊢
      rcases hattested r.family hmem with ⟨g', hg', _, hsubject⟩
      rw [hg] at hg'
      cases hg'
      have hsame := hinv.coherent.subject_eq hg hq hrq.family
      exact hsubject.symm.trans (hsame.symm.trans hrq.subject)
  cases h.outcome hs hd hracer with
  | won _ hquiet => exact absurd hwithdraws (hquiet _ (mem_past.mpr he))
  | detected hanswered hexchanged _ => exact ⟨⟨e.task, hracer, hanswered⟩, hexchanged⟩
  | late _ _ hquiet _ => exact absurd hwithdraws (hquiet _ (mem_past.mpr he))

theorem exists_exchange {i : Nat} (hi : i ∈ racers) :
    ∃ e ∈ (s.run f actions).history, e.turn.Exchanges r.id := by
  have hinv : Invariant f (s.run f actions) := (hs.trans ⟨actions, rfl⟩).invariant hd
  cases h.outcome hs hd hi with
  | won hanswered _ =>
      rcases hinv.exchanged_of_answered hanswered with ⟨q, next, hfound, hexchanged, _⟩
      rcases h.found_of_racer hs hd hi hfound with ⟨_, ⟨⟩, hq⟩
      rw [hq.id] at hexchanged
      exact ⟨_, mem_past.mp hexchanged, next, rfl⟩
  | detected _ hexchanged _ => exact hexchanged
  | late _ hwithdrawn _ _ => exact (h.detected_of_withdrawn hs hd hwithdrawn).right

/-- A race has one winner, and the others get nothing.  One of them at least is told of the
reuse. -/
theorem one_winner :
    ∃ i ∈ racers, (∃ a, (s.run f actions).Answered i (.refresh p) (.ok a)) ∧
      (∀ j ∈ racers, j ≠ i → (s.run f actions).Answered j (.refresh p) (.error .reuseDetected) ∨
        (s.run f actions).Answered j (.refresh p) (.error .invalidCredential)) ∧
      ∃ j ∈ racers, (s.run f actions).Answered j (.refresh p) (.error .reuseDetected) := by
  have hinv : Invariant f (s.run f actions) := (hs.trans ⟨actions, rfl⟩).invariant hd
  have hpos : 0 < racers.length := Nat.lt_of_lt_of_le Nat.two_pos h.several
  rcases h.exists_exchange hs hd (List.getElem_mem hpos) with ⟨e, he, hexchanges⟩
  rcases h.won_of_exchanges hs hd he hexchanges with ⟨hwinner, a, hwon⟩
  have hrefused : ∀ j ∈ racers, j ≠ e.task →
      (s.run f actions).Answered j (.refresh p) (.error .reuseDetected) ∨
        ((s.run f actions).Answered j (.refresh p) (.error .invalidCredential) ∧
          (s.run f actions).Withdrawn r.family) := by
    intro j hj hne
    cases h.outcome hs hd hj with
    | won hanswered _ => exact absurd (hinv.winner_unique hanswered hwon) hne
    | detected hanswered _ _ => exact Or.inl hanswered
    | late hanswered hwithdrawn _ _ => exact Or.inr ⟨hanswered, hwithdrawn⟩
  refine ⟨e.task, hwinner, ⟨a, hwon⟩, ?_, ?_⟩
  · intro j hj hne
    rcases hrefused j hj hne with hdetected | ⟨hlate, _⟩
    · exact Or.inl hdetected
    · exact Or.inr hlate
  · have hother : ∃ j ∈ racers, j ≠ e.task := by
      by_contra hnone
      push Not at hnone
      have hsame := h.distinct.getElem_inj_iff.mp
        ((hnone _ (List.getElem_mem hpos)).trans (hnone _ (List.getElem_mem h.several)).symm)
      cases hsame
    rcases hother with ⟨j, hj, hne⟩
    rcases hrefused j hj hne with hdetected | ⟨_, hwithdrawn⟩
    · exact ⟨j, hj, hdetected⟩
    · exact (h.detected_of_withdrawn hs hd hwithdrawn).left

end Race

/-! # Every run -/

/-- In every run, whatever other requests are in flight: a secret gets new credentials at most
once; another refresh that reads its record in time leaves the whole family withdrawn, the
successor with it, and no refresh that makes its exchange afterwards gets credentials of the
family; and of two or more refreshes that race for an active secret exactly one wins, one at least
is told of the reuse, and the rest are refused. -/
theorem single_use {t : Service} (ht : Reachable f t) (hd : t.DistinctIds) :
    (∀ p i j a b, t.Answered i (.refresh p) (.ok a) → t.Answered j (.refresh p) (.ok b) → i = j) ∧
    (∀ p i j a b, t.Answered i (.refresh p) (.ok a) → i ≠ j → t.Answered j (.refresh p) b →
      ReadInTime p (t.past j) →
      (∃ g, t.tokens.families.get? a.family = some g ∧ g.isRevoked = true) ∧
      (∀ id r, t.tokens.records.get? id = some r → r.family = a.family → r.state = .revoked) ∧
      (∃ r, t.tokens.findByHash a.refresh.hash = some r ∧ r.family = a.family ∧
        r.state = .revoked) ∧
      ∀ u, Reaches f t u → u.DistinctIds → ∀ k q c, u.Answered k (.refresh q) (.ok c) →
        (∀ turn ∈ t.past k, ∀ id, ¬ turn.Exchanges id) →
        c.family ≠ a.family ∧ ∀ r, u.tokens.findByHash q.hash = some r → r.family ≠ a.family) ∧
    (∀ s actions p r racers, Reachable f s → s.run f actions = t → Race f s actions p r racers →
      ∃ i ∈ racers, (∃ a, t.Answered i (.refresh p) (.ok a)) ∧
        (∀ j ∈ racers, j ≠ i → t.Answered j (.refresh p) (.error .reuseDetected) ∨
          t.Answered j (.refresh p) (.error .invalidCredential)) ∧
        ∃ j ∈ racers, t.Answered j (.refresh p) (.error .reuseDetected)) := by
  have hinv := ht.invariant hd
  refine ⟨?_, ?_, ?_⟩
  · intro p i j a b hi hj
    exact hinv.winner_unique hi hj
  · intro p i j a b hi hne hj hread
    rcases hread with ⟨⟨r, hfound⟩, htime⟩
    have hwithdrawn : t.Withdrawn a.family := by
      cases b with
      | ok c => exact absurd (hinv.winner_unique hi hj) hne
      | error failure =>
          rcases hinv.exchanged_of_answered hi with ⟨r', _, hfound', _, hfamily, _⟩
          rw [← hfamily, (hinv.found_same hfound' hfound).right]
          exact hinv.withdrawn_of_refused hj hfound htime
    refine ⟨hwithdrawn, ?_, ?_, ?_⟩
    · intro id r hr hfamily
      exact hinv.revoked_of_withdrawn hwithdrawn hr hfamily
    · rcases hinv.successor_of_answered hi with ⟨q, hq, hfamily⟩
      have hstored := (hinv.coherent.get?_of_findByHash hq).left
      exact ⟨q, hq, hfamily, hinv.revoked_of_withdrawn hwithdrawn hstored hfamily⟩
    · intro u htu hdu k q c hk hlate
      have hinvu := (ht.trans htu).invariant hdu
      have hother : c.family ≠ a.family := by
        rcases hinvu.exchanged_of_answered hk with ⟨x, next, hx, hexchanged, hfamily, _⟩
        rcases hinvu.get?_of_found hx with ⟨_, y, hy, hxy⟩
        have hnew : ⟨k, exchanged x.id next .applied⟩ ∉ t.history :=
          fun hold => hlate _ (mem_past.mpr hold) x.id ⟨next, rfl⟩
        have hne := hwithdrawn.not_exchanged ht htu hdu (mem_past.mp hexchanged) hnew
          ⟨next, rfl⟩ hy
        rw [← hfamily, ← hxy.family]
        exact hne
      refine ⟨hother, ?_⟩
      intro x hx
      rw [hinvu.family_of_presented hk hx]
      exact hother
  · intro s actions p r racers hs heq hrace
    subst heq
    exact hrace.one_winner hs hd

/-! # Two refreshes at once -/

namespace Sample

/-- The login is over, and the change of the password waits. -/
def loggedIn : Service :=
  underway.run facade (List.replicate 13 (.advance 0))

def contest : List Action :=
  .start (.refresh secret) :: .start (.refresh secret) ::
    (List.replicate 14 [.advance 2, .advance 3]).flatten

def contested : Service :=
  loggedIn.run facade contest

theorem contested_eq :
    contested = underway.run facade (List.replicate 13 (.advance 0) ++ contest) :=
  (run_append _ _ _).symm

theorem readInTime : ∀ i ∈ [2, 3], ReadInTime secret (contested.past i) := by
  have hall : ∀ i ∈ [2, 3], ((contested.past i).any (finds secret) &&
      startsInTime (contested.past i)) = true := by decide +kernel
  intro i hi
  exact readInTime_of_check (hall i hi)

theorem race : ∃ r, Race facade loggedIn contest secret r [2, 3] := by
  have hpresent : (loggedIn.tokens.findByHash secret.hash).any
      (fun r => r.state == .active && r.subject == subject.id) = true := by decide +kernel
  rcases (Option.any_eq_true _ _).mp hpresent with ⟨r, hr, hshape⟩
  rw [Bool.and_eq_true, beq_iff_eq, beq_iff_eq] at hshape
  refine ⟨r, hr, hshape.left, by decide, by decide, ?_, ?_, ?_, ?_, ?_⟩
  · have hall : ∀ i ∈ [2, 3], (loggedIn.past i).isEmpty = true := by decide +kernel
    intro i hi
    exact List.isEmpty_iff.mp (hall i hi)
  · have hall : ∀ i ∈ [2, 3], (contested.answer? i (.refresh secret)).isSome = true := by
      decide +kernel
    intro i hi
    rcases Option.isSome_iff_exists.mp (hall i hi) with ⟨a, ha⟩
    exact ⟨a, answered_of_answer? ha⟩
  · intro i hi
    exact (readInTime i hi).right
  · have hall : ∀ pre ∈ contest.inits,
        ((loggedIn.run facade pre).world.store.subjects.findById subject.id).any
          Subject.isUsable = true := by decide +kernel
    intro pre hpre
    rw [hshape.right]
    exact (Option.any_eq_true _ _).mp (hall pre ((List.mem_inits _ _).mpr hpre))
  · have hall : ∀ i ∈ (contested.history.drop loggedIn.history.length).map Entry.task,
        i ∈ [2, 3] := by decide +kernel
    intro e he hnew _
    have hreach : Reaches facade loggedIn contested := ⟨contest, rfl⟩
    rcases hreach.history_prefix with ⟨new, hhistory⟩
    rw [hhistory, List.drop_left] at hall
    change e ∈ contested.history at he
    rw [hhistory] at he
    exact hall _ (List.mem_map_of_mem ((List.mem_append.mp he).resolve_left hnew))

end Sample

open Sample

/-- Of two refreshes that take turns one gets new credentials and the other learns of the reuse,
after which the new credentials are worth nothing. -/
theorem single_use_contested :
    Reachable facade contested ∧ contested.DistinctIds ∧
      (∃ r, Race facade loggedIn contest secret r [2, 3]) ∧
      ∃ i ∈ [2, 3], ∃ a, contested.Answered i (.refresh secret) (.ok a) ∧
        (∃ r, contested.tokens.findByHash a.refresh.hash = some r ∧ r.state = .revoked) ∧
        ∃ j ∈ [2, 3], contested.Answered j (.refresh secret) (.error .reuseDetected) := by
  have hs : Reachable facade loggedIn := reachable_run _
  have ht : Reachable facade contested := hs.trans ⟨contest, rfl⟩
  have hd : contested.DistinctIds := by
    rw [contested_eq]
    exact distinctIds_run (by decide +kernel)
  rcases race with ⟨r, hrace⟩
  rcases single_use ht hd with ⟨_, hreuse, hraces⟩
  rcases hraces loggedIn contest secret r [2, 3] hs rfl hrace with
    ⟨i, hi, ⟨a, hwon⟩, _, j, hj, hlost⟩
  have hne : i ≠ j := by
    intro heq
    subst heq
    have hsame := hwon.symm.trans hlost
    cases hsame
  rcases hreuse secret i j a _ hwon hne hlost (readInTime j hj) with ⟨_, _, ⟨q, hq, _, hstate⟩, _⟩
  exact ⟨ht, hd, ⟨r, hrace⟩, i, hi, a, hwon, ⟨q, hq, hstate⟩, j, hj, hlost⟩

end Service

end SessionAuth
