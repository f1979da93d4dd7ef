import SessionAuth.Proofs.Service.Deadline
import SessionAuth.Proofs.Service.PasswordChange
import SessionAuth.Proofs.Service.Races

/-!
# Honest use of a session

A client that presents each secret of its session once and in time keeps its session.  Nothing
that others do with other sessions, and be it the reuse of their secrets, takes it down.  Each
refresh gives the client new credentials, but for two ends of the world: the generations run out
after two thousand million refreshes, and no access token is signed that would outlast the
calendar.
-/

namespace SessionAuth

open Time Refresh

namespace Service

open SessionAuth.Flow

variable {f : Session.Facade}

/-!
# Refreshes come to an end

A refresh takes at most fourteen turns.  It halts only if a call of the store fails, if no token
can be signed, or if a number leaves its range.
-/

/-- Why a refresh halts: for a fault, after the last generation, or because the access token would
expire after the end of the calendar. -/
inductive Stops (f : Session.Facade) (p : Secret) (past : List Turn) : Halt → Prop where
  | fault (x : Fault) : Stops f p past (.fault x)
  | generation {r : Record} (hfound : found p (some r) ∈ past)
      (hlast : ¬ r.generation < Session.maxGeneration) : Stops f p past (.overflow .generation)
  | accessExpiry {t : Instant} (hclock : ⟨.clock, t⟩ ∈ past)
      (hadd : t.add? f.issuer.accessLifetime = none) : Stops f p past (.overflow .accessExpiry)

theorem stops_of_issueAccess {p : Secret} {past : List Turn} {t : Instant}
    (hclock : ⟨.clock, t⟩ ∈ past) {id : Id .accessToken} {subject : SubjectId} {admin : Bool}
    {family : Option FamilyId} {e : Halt}
    (h : f.issuer.issueAccess t id subject admin family = .error e) : Stops f p past e := by
  unfold Access.Issuer.issueAccess at h
  split at h
  · cases h
    exact Stops.fault _
  · split at h
    case h_1 hadd =>
        cases h
        exact Stops.accessExpiry hclock hadd
    case h_2 => cases h

theorem stops_of_fails {p : Secret} {past : List Turn} {e : Halt}
    (h : Fails f (.refresh p) past e) : Stops f p past e := by
  cases h with
  | call hfailed => exact Stops.fault _
  | refresh hfound hknows husable hclock hissue => exact stops_of_issueAccess hclock hissue
  | generation hfound hknows husable hlast => exact Stops.generation hfound hlast

/-- A refresh in flight has taken fewer than fourteen turns, and one that has halted has stopped for
a reason. -/
theorem Reachable.bounded {s : Service} (hs : Reachable f s) {i : Nat} {p : Secret}
    {x : Flow (Request.refresh p).Reply} (hi : s.tasks[i]? = some ⟨.refresh p, x⟩) :
    Bounded (Stops f p) (14 - (s.past i).length) (s.past i) x :=
  (hs.bounded_rest (bounded_refresh f p) hi).weaken (fun _ _ => stops_of_fails)

/-! # Who has done it -/

/-- A secret of a family, which is that of one of its records. -/
def HasSecret (s : Service) (fam : FamilyId) (p : Secret) : Prop :=
  ∃ r, s.tokens.findByHash p.hash = some r ∧ r.family = fam

def Made (s : Service) (i : Nat) (q : Request) : Prop :=
  ∃ x, s.tasks[i]? = some ⟨q, x⟩

/-- A task that has read the record of the secret that it presents. -/
structure Reader (s : Service) (i : Nat) (q : Request) (p : Secret) (r : Record) : Prop where
  made : s.Made i q
  found : found p (some r) ∈ s.past i

/-- How a task came to withdraw a family: its secret had been exchanged by somebody else, or it
found the subject unusable, or it is a logout. -/
inductive Withdrawer (s : Service) (fam : FamilyId) (i : Nat) : Prop where
  | reuse {p : Secret} {r : Record} (hreader : Reader s i (.refresh p) p r)
      (hfamily : r.family = fam)
      (hother : ∃ e ∈ s.history, e.turn.Exchanges r.id ∧ e.task ≠ i)
  | unusable {p : Secret} {r : Record} {x : Option Subject}
      (hreader : Reader s i (.refresh p) p r) (hfamily : r.family = fam)
      (hknows : knows r.subject x ∈ s.past i) (hunusable : ∀ y ∈ x, y.isUsable = false)
  | logout {p : Secret} {r : Record} (hreader : Reader s i (.logout p) p r)
      (hfamily : r.family = fam)

theorem found_before_knows {i : Nat} {p : Secret} {t : Service} {x : Flow (Request.refresh p).Reply}
    (hi : t.tasks[i]? = some ⟨.refresh p, x⟩) {u v : Service} {id : SubjectId} {y : Option Subject}
    (hinv : Invariant f u) (htakes : Takes u ⟨i, knows id y⟩ v) (hut : Reaches f u t) :
    ∃ r, found p (some r) ∈ u.past i ∧ r.subject = id := by
  rcases hinv.allows htakes with ⟨q, z, hz, hallows⟩
  rcases hut.task hz with ⟨z', hz'⟩
  rw [hi] at hz'
  cases hz'
  change (Request.refresh p).Asks f (u.past i) _ at hallows
  cases hallows with
  | inspect hinspects _ => cases hinspects
  | know hcalls hstate => exact ⟨_, Turn.mem_of_calls hcalls (by simp), rfl⟩

section Deeds

variable {w : World} {t : Service} (hw : Fresh w) (ht : Reaches f (idle w) t) (hd : t.DistinctIds)
include hw ht hd

theorem moment {e : Entry} (he : e ∈ t.history) :
    ∃ u v, Invariant f u ∧ Takes u e v ∧ Reaches f (idle w) u ∧ Reaches f u t := by
  have hnot : e ∉ (idle w).history := by simp [idle]
  rcases ht.split_of_mem he hnot with ⟨u, v, hu, htakes, huv, hvt⟩
  have hut := huv.trans hvt
  have hreach : Reachable f u := ⟨w, hw, hu⟩
  exact ⟨u, v, hreach.invariant (hd.of_reaches hut), htakes, hu, hut⟩

theorem reader_of_exchanges {e : Entry} (he : e ∈ t.history) {id : RecordId}
    (h : e.turn.Exchanges id) : ∃ p r, Reader t e.task (.refresh p) p r ∧ r.id = id := by
  rcases moment hw ht hd he with ⟨u, v, hinv, htakes, _, hut⟩
  rcases hinv.allows htakes with ⟨q, x, hx, hallows⟩
  rcases h with ⟨next, heq⟩
  rw [heq] at hallows
  change q.Asks f (u.past e.task) _ at hallows
  cases hallows with
  | inspect _ hreads => cases hreads
  | exchange hcalls hstate husable hgeneration hissued =>
      rename_i p r _ _ _
      refine ⟨p, r, ⟨hut.task hx, ?_⟩, rfl⟩
      have hfound : found p (some r) ∈ u.past e.task := Turn.mem_of_calls hcalls (by simp)
      exact mem_past.mpr (hut.mem_history (mem_past.mp hfound))

theorem withdrawer_of_withdrew {e : Entry} (he : e ∈ t.history) {fam : FamilyId} {reason : Reason}
    {n : Nat} (heq : e.turn = withdrew fam reason n) : Withdrawer t fam e.task := by
  rcases moment hw ht hd he with ⟨u, v, hinv, htakes, _, hut⟩
  rcases hinv.allows htakes with ⟨q, x, hx, hallows⟩
  rw [heq] at hallows
  change q.Asks f (u.past e.task) _ at hallows
  have hlater : ∀ turn, turn ∈ u.past e.task → turn ∈ t.past e.task :=
    fun turn hturn => mem_past.mpr (hut.mem_history (mem_past.mp hturn))
  -- A record that the task has seen exchanged was exchanged by another one.
  have hother : ∀ {id : RecordId} {turn : Turn}, turn ∈ u.past e.task → turn.SeesExchanged id →
      (∀ turn ∈ u.past e.task, ¬ turn.Exchanges id) →
      ∃ e' ∈ t.history, e'.turn.Exchanges id ∧ e'.task ≠ e.task := by
    intro id turn hturn hsees hnone
    rcases hinv.seen _ (mem_past.mp hturn) id hsees with ⟨e', he', hexchanges⟩
    refine ⟨e', hut.mem_history he', hexchanges, ?_⟩
    intro hself
    exact hnone e'.turn (mem_past.mpr (by rw [← hself]; exact he')) hexchanges
  cases hallows with
  | inspect _ hreads => cases hreads
  | reuse hcalls hstate =>
      rename_i p r
      have hfound : found p (some r) ∈ u.past e.task := Turn.mem_of_calls hcalls (by simp)
      refine Withdrawer.reuse ⟨hut.task hx, hlater _ hfound⟩ rfl (hother hfound ?_ ?_)
      · exact Or.inl ⟨p.hash, r, rfl, rfl, hstate⟩
      · exact not_exchanges_of_calls hcalls (by simp)
  | race hcalls =>
      rename_i p r x next
      have hfound : found p (some r) ∈ u.past e.task := Turn.mem_of_calls hcalls (by simp)
      have hmismatch : exchanged r.id next (.stateMismatch .consumed) ∈ u.past e.task :=
        Turn.mem_of_calls hcalls (by simp)
      refine Withdrawer.reuse ⟨hut.task hx, hlater _ hfound⟩ rfl (hother hmismatch ?_ ?_)
      · exact Or.inr ⟨next, rfl⟩
      · exact not_exchanges_of_calls hcalls (by simp)
  | bar hcalls hunusable =>
      rename_i p r y
      have hfound : found p (some r) ∈ u.past e.task := Turn.mem_of_calls hcalls (by simp)
      have hknows : knows r.subject y ∈ u.past e.task := Turn.mem_of_calls hcalls (by simp)
      exact Withdrawer.unusable ⟨hut.task hx, hlater _ hfound⟩ rfl (hlater _ hknows) hunusable
  | close hcalls =>
      rename_i p r
      have hfound : found p (some r) ∈ u.past e.task := Turn.mem_of_calls hcalls (by simp)
      exact Withdrawer.logout ⟨hut.task hx, hlater _ hfound⟩ rfl

end Deeds

/-!
# An honest client

From a state in which its family is not there yet, and during some actions, a client presents each
secret of the family in one refresh, not before it is issued and not after it has expired, and none
of them in a logout.  From the moment at which the family is added, nobody withdraws all families
of the subject, which stays usable, and no refresh in the family ends in a fault.
-/

structure Honest (f : Session.Facade) (s : Service) (actions : List Action) (first : Record)
    (after : List Entry) : Prop where
  once : ∀ i j p q, (s.run f actions).HasSecret first.family p → p.hash = q.hash →
    (s.run f actions).Made i (.refresh p) → (s.run f actions).Made j (.refresh q) → i = j
  issued : ∀ i p, (s.run f actions).HasSecret first.family p →
    (s.run f actions).Made i (.refresh p) → found p none ∉ (s.run f actions).past i
  inTime : ∀ i p, (s.run f actions).HasSecret first.family p →
    (s.run f actions).Made i (.refresh p) → InTime p ((s.run f actions).past i)
  kept : ∀ i p, (s.run f actions).HasSecret first.family p →
    ¬ (s.run f actions).Made i (.logout p)
  spared : ∀ i reason families, ⟨i, swept first.subject reason families⟩ ∉ after
  usable : ∀ pre, pre <+: actions →
    (∃ g, (s.run f pre).tokens.families.get? first.family = some g) →
    ∃ x, (s.run f pre).world.store.subjects.findById first.subject = some x ∧ x.isUsable = true
  sound : ∀ (i : Nat) p e, (s.run f actions).HasSecret first.family p →
    (s.run f actions).tasks[i]? ≠ some ⟨.refresh p, .halt (.fault e)⟩

namespace Invariant

variable {s : Service} (hs : Invariant f s) {i : Nat} {p : Secret} {r : Record}
include hs

theorem hasSecret_of_found (h : found p (some r) ∈ s.past i) : s.HasSecret r.family p := by
  rcases hs.get?_of_found h with ⟨hhash, q, hq, hrq⟩
  refine ⟨q, ?_, hrq.family⟩
  rw [← hhash, ← hrq.tokenHash]
  exact hs.coherent.findByHash_of_get? hq

theorem family_of_found (h : found p (some r) ∈ s.past i) :
    ∃ g, s.tokens.families.get? r.family = some g ∧ g.subject = r.subject := by
  rcases hs.get?_of_found h with ⟨_, q, hq, hrq⟩
  rcases hs.coherent.listed _ q hq with ⟨g, hg, _⟩
  have hsubject := hs.coherent.subject_eq hg hq rfl
  rw [hrq.family] at hg
  exact ⟨g, hg, hsubject.symm.trans hrq.subject⟩

theorem hash_eq_of_found {j : Nat} {q : Secret} {r' : Record} (h : found p (some r) ∈ s.past i)
    (h' : found q (some r') ∈ s.past j) (hid : r'.id = r.id) : p.hash = q.hash := by
  rcases hs.get?_of_found h with ⟨hhash, x, hx, hrx⟩
  rcases hs.get?_of_found h' with ⟨hhash', y, hy, hry⟩
  rw [hid, hx] at hy
  cases hy
  exact hhash.symm.trans (hrx.tokenHash.symm.trans (hry.tokenHash.trans hhash'))

theorem subject_of_added {opener : Nat} {first : Record}
    (hadded : ⟨opener, opened first⟩ ∈ s.history) {g : Family}
    (hg : s.tokens.families.get? first.family = some g) : g.subject = first.subject := by
  rcases hs.family_of_added hadded with ⟨g', hg', hsubject⟩
  rw [hg] at hg'
  cases hg'
  exact hsubject

end Invariant

theorem mem_history_of_eq {s : Service} {before after : List Entry} {e : Entry}
    (hist : s.history = before ++ e :: after) : e ∈ s.history := by
  rw [hist]
  exact List.mem_append_cons_self

namespace Honest

variable {s : Service} {actions : List Action} {first : Record} {before after : List Entry}
  {opener : Nat} (h : Honest f s actions first after) (hs : Reachable f s)
  (hd : (s.run f actions).DistinctIds) (hnew : s.tokens.families.get? first.family = none)
  (hist : (s.run f actions).history = before ++ ⟨opener, opened first⟩ :: after)
include h hs hd hnew hist

theorem usable_of_knows {i : Nat} {p : Secret} {r : Record} {x : Option Subject}
    (hreader : Reader (s.run f actions) i (.refresh p) p r) (hfamily : r.family = first.family)
    (hknows : knows r.subject x ∈ (s.run f actions).past i) :
    ∃ y, x = some y ∧ y.isUsable = true := by
  have hinv : Invariant f (s.run f actions) := (hs.trans ⟨actions, rfl⟩).invariant hd
  rcases hreader with ⟨⟨z, hz⟩, hfound⟩
  have hsubject : r.subject = first.subject := by
    rcases hinv.family_of_found hfound with ⟨g, hg, hsame⟩
    rw [hfamily] at hg
    exact hsame.symm.trans (hinv.subject_of_added (mem_history_of_eq hist) hg)
  -- The family is there when the subject is read, so this was not before the state `s`.
  have hthere : ∀ {u v}, Invariant f u → Takes u ⟨i, knows r.subject x⟩ v →
      Reaches f u (s.run f actions) → ∃ g, u.tokens.families.get? first.family = some g := by
    intro u v hu htakes hut
    rcases found_before_knows hz hu htakes hut with ⟨r', hfound', _⟩
    rcases hu.family_of_found hfound' with ⟨g, hg, _⟩
    have hlater := mem_past.mpr (hut.mem_history (mem_past.mp hfound'))
    rw [(hinv.found_same hlater hfound).right, hfamily] at hg
    exact ⟨g, hg⟩
  by_cases hold : ⟨i, knows r.subject x⟩ ∈ s.history
  · rcases hs with ⟨w, hw, hrun⟩
    rcases moment hw hrun (hd.of_reaches ⟨actions, rfl⟩) hold with ⟨u, v, hu, htakes, hwu, hus⟩
    rcases hthere hu htakes (hus.trans ⟨actions, rfl⟩) with ⟨g, hg⟩
    have hu' : Reachable f u := ⟨w, hw, hwu⟩
    rcases (hu'.evolves hus (hd.of_reaches ⟨actions, rfl⟩)).families _ g hg with ⟨g', hg', _⟩
    rw [hnew] at hg'
    cases hg'
  · rcases run_split_of_mem (mem_past.mp hknows) hold with ⟨pre, a, post, hactions, htakes⟩
    rcases run_between (f := f) (s := s) hactions with ⟨hbefore, hafter⟩
    have hrest : Reaches f (s.run f pre) (s.run f actions) := (Reaches.step _ a).trans hafter
    have hu := (hs.trans hbefore).invariant (hd.of_reaches hrest)
    rcases htakes.perform with ⟨now, hperform⟩
    rw [Store.perform_findById hperform, hsubject]
    exact h.usable pre ⟨a :: post, hactions.symm⟩ (hthere hu htakes hrest)

theorem not_withdrawn : ¬ (s.run f actions).Withdrawn first.family := by
  have hinv : Invariant f (s.run f actions) := (hs.trans ⟨actions, rfl⟩).invariant hd
  intro hwithdrawn
  rcases hwithdrawn with ⟨g, hg, hrevoked⟩
  rcases hinv.withdrawn _ g hg hrevoked with ⟨e, he, hwithdraws⟩
  have hreach := hs
  rcases hreach with ⟨w, hw, hrun⟩
  have ht : Reaches f (idle w) (s.run f actions) := hrun.trans ⟨actions, rfl⟩
  rcases hwithdraws with ⟨reason, n, heq⟩ | ⟨subject, reason, families, heq, hmem⟩
  · cases withdrawer_of_withdrew hw ht hd he heq with
    | reuse hreader hfamily hother =>
        rcases hother with ⟨e', he', hexchanges, hne⟩
        rcases reader_of_exchanges hw ht hd he' hexchanges with ⟨q, r', hreader', hid⟩
        have hsecret := hinv.hasSecret_of_found hreader.found
        rw [hfamily] at hsecret
        have hhash := hinv.hash_eq_of_found hreader.found hreader'.found hid
        exact hne (h.once _ _ _ _ hsecret hhash hreader.made hreader'.made).symm
    | unusable hreader hfamily hknows hunusable =>
        rcases h.usable_of_knows hs hd hnew hist hreader hfamily hknows with ⟨y, rfl, hy⟩
        rw [hunusable y rfl] at hy
        cases hy
    | logout hreader hfamily =>
        have hsecret := hinv.hasSecret_of_found hreader.found
        rw [hfamily] at hsecret
        exact h.kept _ _ hsecret hreader.made
  · have hsubject : subject = first.subject := by
      have hattested := hinv.attested e he
      rw [heq] at hattested
      rcases hattested _ hmem with ⟨g', hg', _, hsame⟩
      exact hsame.symm.trans (hinv.subject_of_added (mem_history_of_eq hist) hg')
    have hhist : (s.run f actions).history =
        (idle w).history ++ before ++ ⟨opener, opened first⟩ :: after := hist
    rw [hist] at he
    rcases List.mem_append.mp he with hearly | hlate
    · -- The family is added after that.
      rcases ht.split hhist with ⟨u, v, hwu, hbefore, hadds, huv, hvt⟩
      have hu : Reachable f u := ⟨w, hw, hwu⟩
      have hinvu := hu.invariant (hd.of_reaches (huv.trans hvt))
      refine hadds.not_withdrawn_of_opened (hinvu.withdrawn_of_withdraws (e := e) ?_ ?_)
      · rw [hbefore]
        exact hearly
      · exact Or.inr ⟨subject, reason, families, heq, hmem⟩
    · rcases List.mem_cons.mp hlate with rfl | hlate
      · cases heq
      · apply h.spared e.task reason families
        rw [← hsubject, ← heq]
        exact hlate

end Honest

theorem Invariant.looked_of_answered {s : Service} (hs : Invariant f s) {i : Nat} {p : Secret}
    {a : Except Failure Session.Tokens} (h : s.Answered i (.refresh p) a) :
    ∃ r, found p r ∈ s.past i := by
  rcases h.ends hs with ⟨x, hrotates, _⟩
  cases hrotates with
  | renewed hcalls => exact ⟨_, Turn.mem_of_calls hcalls List.mem_cons_self⟩
  | unknown hcalls => exact ⟨_, Turn.mem_of_calls hcalls List.mem_cons_self⟩
  | withdrawn hcalls => exact ⟨_, Turn.mem_of_calls hcalls List.mem_cons_self⟩
  | expired hpast => exact ⟨_, by rw [hpast]; exact List.mem_cons_self⟩
  | reused hcalls => exact ⟨_, Turn.mem_of_calls hcalls List.mem_cons_self⟩
  | unusable hcalls => exact ⟨_, Turn.mem_of_calls hcalls List.mem_cons_self⟩
  | raced hcalls => exact ⟨_, Turn.mem_of_calls hcalls List.mem_cons_self⟩
  | late hcalls => exact ⟨_, Turn.mem_of_calls hcalls List.mem_cons_self⟩

/-- The records of a family have the generations from zero on, so that a record of the last
generation comes after all others that a family can have. -/
theorem Invariant.le_length_of_last {s : Service} (hs : Invariant f s) {i : Nat} {p : Secret}
    {r : Record} (hfound : found p (some r) ∈ s.past i)
    (hlast : ¬ r.generation < Session.maxGeneration) {g : Family}
    (hg : s.tokens.families.get? r.family = some g) : 2147483648 ≤ g.records.length := by
  rcases hs.get?_of_found hfound with ⟨_, q, hq, hrq⟩
  rcases hs.coherent.exists_place hq with ⟨g', k, hg', hk, hfills⟩
  rw [hrq.family, hg] at hg'
  cases hg'
  have hbound : k < g.records.length := (List.getElem?_eq_some_iff.mp hk).choose
  have hgeneration : r.generation = k := hrq.generation.symm.trans hfills.generation
  have hmax : Session.maxGeneration = 2147483647 := rfl
  omega

/-! # Every run -/

/-- A family that a login has added stays in force as long as its client is honest, whatever other
requests are in flight.  Each refresh in the family is answered with new credentials of the family,
unless it is still in flight, which it is for fewer than fourteen turns.  It halts only if the
family has as many records as there are generations, or if it has read the clock at a time from
which the lifetime of an access token leads out of the calendar. -/
theorem honest_never_refused {s : Service} {actions : List Action} {first : Record}
    {before after : List Entry} {opener : Nat} (hs : Reachable f s)
    (hd : (s.run f actions).DistinctIds) (hnew : s.tokens.families.get? first.family = none)
    (hist : (s.run f actions).history = before ++ ⟨opener, opened first⟩ :: after)
    (h : Honest f s actions first after) :
    ∃ g, (s.run f actions).tokens.families.get? first.family = some g ∧ g.isRevoked = false ∧
    ∀ (i : Nat) p x, (s.run f actions).HasSecret first.family p →
      (s.run f actions).tasks[i]? = some ⟨.refresh p, x⟩ →
      (∃ tokens, x = .done (.ok tokens) ∧ tokens.family = first.family) ∨
      ((∃ e next, x = .step e next) ∧ ((s.run f actions).past i).length < 14) ∨
      (x = .halt (.overflow .generation) ∧ 2147483648 ≤ g.records.length) ∨
      (x = .halt (.overflow .accessExpiry) ∧ ∃ now, ⟨.clock, now⟩ ∈ (s.run f actions).past i ∧
        ∀ u : Instant, u.nanos ≠ now.nanos + f.issuer.accessLifetime.nanos) := by
  have hreach : Reachable f (s.run f actions) := hs.trans ⟨actions, rfl⟩
  have hinv := hreach.invariant hd
  have hlive := h.not_withdrawn hs hd hnew hist
  rcases hinv.family_of_added (mem_history_of_eq hist) with ⟨g, hg, _⟩
  refine ⟨g, hg, Bool.eq_false_iff.mpr (fun hrevoked => hlive ⟨g, hg, hrevoked⟩), ?_⟩
  intro i p x hsecret hi
  rcases hsecret with ⟨q, hq, hfamily⟩
  have hmade : (s.run f actions).Made i (.refresh p) := ⟨x, hi⟩
  have hbounded := hreach.bounded hi
  -- The record that a refresh has read is that of its secret.
  have hrecord : ∀ r, found p (some r) ∈ (s.run f actions).past i → r.family = first.family := by
    intro r hfound
    rcases hinv.hasSecret_of_found hfound with ⟨q', hq', hfamily'⟩
    rw [hq] at hq'
    cases hq'
    exact hfamily'.symm.trans hfamily
  cases x with
  | step e next =>
      have hpos := (bounded_step.mp hbounded).left
      exact Or.inr (Or.inl ⟨⟨e, next, rfl⟩, by omega⟩)
  | halt e =>
      cases (bounded_halt e).mp hbounded with
      | fault e => exact absurd hi (h.sound i p e ⟨q, hq, hfamily⟩)
      | generation hfound hlast =>
          rw [← hrecord _ hfound] at hg
          exact Or.inr (Or.inr (Or.inl ⟨rfl, hinv.le_length_of_last hfound hlast hg⟩))
      | accessExpiry hclock hadd =>
          refine Or.inr (Or.inr (Or.inr ⟨rfl, _, hclock, ?_⟩))
          intro u hu
          rw [Instant.add?_eq_some.mpr hu] at hadd
          cases hadd
  | done a =>
      have hanswered : (s.run f actions).Answered i (.refresh p) a := hi
      cases a with
      | ok tokens =>
          refine Or.inl ⟨tokens, rfl, ?_⟩
          rw [← hinv.family_of_presented hanswered hq]
          exact hfamily
      | error failure =>
          rcases hinv.looked_of_answered hanswered with ⟨r, hfound⟩
          cases r with
          | none => exact absurd hfound (h.issued i p ⟨q, hq, hfamily⟩ hmade)
          | some r =>
              have hwithdrawn := hinv.withdrawn_of_refused hanswered hfound
                (h.inTime i p ⟨q, hq, hfamily⟩ hmade)
              rw [hrecord r hfound] at hwithdrawn
              exact absurd hwithdrawn hlive

/-! # A session that is refreshed once -/

namespace Sample

def adds (fam : FamilyId) (subject : SubjectId) : Turn → Bool
  | ⟨.store (.insert r), .ok _⟩ => r.family == fam && r.subject == subject
  | _ => false

def disturbs : Turn → Bool
  | ⟨.store (.findByHash _), .ok none⟩ => true
  | ⟨.store (.revokeSubjectFamilies _ _), _⟩ => true
  | _ => false

theorem exists_opened_of_adds {s : Service} {fam : FamilyId} {subject : SubjectId}
    (h : s.history.any (fun e => adds fam subject e.turn) = true) :
    ∃ before i r after, s.history = before ++ ⟨i, opened r⟩ :: after ∧ r.family = fam ∧
      r.subject = subject := by
  rcases List.any_eq_true.mp h with ⟨⟨i, turn⟩, hmem, hadds⟩
  rcases List.append_of_mem hmem with ⟨before, after, hist⟩
  unfold adds at hadds
  split at hadds
  case h_1 r _ heq =>
      have hturn : turn = opened r := heq
      subst hturn
      rw [Bool.and_eq_true, beq_iff_eq, beq_iff_eq] at hadds
      exact ⟨before, i, r, after, hist, hadds.left, hadds.right⟩
  case h_2 => cases hadds

/-- A run in which one task refreshes a session of the subject and nobody gets in its way. -/
structure Undisturbed (f : Session.Facade) (s : Service) (actions : List Action) (i : Nat) :
    Prop where
  refreshes : ∀ j p, (s.run f actions).Made j (.refresh p) → j = i
  logouts : ∀ j p, ¬ (s.run f actions).Made j (.logout p)
  quiet : (s.run f actions).history.all (fun e => !disturbs e.turn) = true
  inTime : startsInTime ((s.run f actions).past i) = true
  usable : ∀ pre ∈ actions.inits,
    ((s.run f pre).world.store.subjects.findById subject.id).any Subject.isUsable = true
  sound : ∀ p e, (s.run f actions).tasks[i]? ≠ some ⟨.refresh p, .halt (.fault e)⟩

theorem Undisturbed.honest {s : Service} {actions : List Action} {i : Nat}
    (h : Undisturbed f s actions i) {first : Record} {before after : List Entry} {opener : Nat}
    (hist : (s.run f actions).history = before ++ ⟨opener, opened first⟩ :: after)
    (hsubject : first.subject = subject.id) : Honest f s actions first after where
  once := by
    intro j k p q _ _ hj hk
    exact (h.refreshes j p hj).trans (h.refreshes k q hk).symm
  issued := by
    intro j p _ _ hnone
    have hturn := List.all_eq_true.mp h.quiet _ (mem_past.mp hnone)
    cases hturn
  inTime := by
    intro j p _ hj r t more heq
    have hstarts := h.inTime
    rw [← h.refreshes j p hj, heq] at hstarts
    simpa [startsInTime] using hstarts
  kept := fun j p _ => h.logouts j p
  spared := by
    intro j reason families hswept
    have hquiet := h.quiet
    rw [hist] at hquiet
    have hturn := List.all_eq_true.mp hquiet _
      (List.mem_append_right before (List.mem_cons_of_mem _ hswept))
    cases hturn
  usable := by
    intro pre hpre _
    rw [hsubject]
    exact (Option.any_eq_true _ _).mp (h.usable pre ((List.mem_inits _ _).mpr hpre))
  sound := by
    intro j p e _ hj
    have hi := h.refreshes j p ⟨_, hj⟩
    subst hi
    exact h.sound p e hj

theorem getElem?_of_made {s : Service} {requests : List Request}
    (hrequests : s.tasks.map Task.request = requests) {i : Nat} {q : Request} (h : s.Made i q) :
    requests[i]? = some q := by
  rcases h with ⟨x, hx⟩
  rw [← hrequests, List.getElem?_map, hx]
  rfl

theorem made_of_requests {s : Service} {requests : List Request}
    (hrequests : s.tasks.map Task.request = requests) {i : Nat} {q : Request}
    (h : requests[i]? = some q) : s.Made i q := by
  rw [← hrequests, List.getElem?_map] at h
  rcases Option.map_eq_some_iff.mp h with ⟨⟨_, x⟩, hx, rfl⟩
  exact ⟨x, hx⟩

def opening : List Action :=
  List.replicate 13 (.advance 0) ++ .start (.refresh secret) :: List.replicate 16 (.advance 2)

theorem observed_rotated :
    rotated.tasks.map Task.request = [login, change, .refresh secret] ∧
    rotated.history.any (fun e => adds family subject.id e.turn) = true ∧
    rotated.history.all (fun e => !disturbs e.turn) = true ∧
    startsInTime (rotated.past 2) = true ∧
    (rotated.answer? 2 (.refresh secret)).isSome = true ∧
    (rotated.tokens.findByHash secret.hash).any (fun r => r.family == family) = true ∧
    rotated.world.drawn.ids ≤ Nat.pow 256 16 := by
  decide +kernel

theorem made_rotated {i : Nat} {q : Request} (h : rotated.Made i q) :
    q = login ∨ q = change ∨ i = 2 ∧ q = .refresh secret := by
  rcases observed_rotated with ⟨hrequests, _⟩
  have hi := getElem?_of_made hrequests h
  match i, hi with
  | 0, hi => exact Or.inl (Option.some.inj hi).symm
  | 1, hi => exact Or.inr (Or.inl (Option.some.inj hi).symm)
  | 2, hi => exact Or.inr (Or.inr ⟨rfl, (Option.some.inj hi).symm⟩)

theorem undisturbed_rotated : Undisturbed facade underway opening 2 where
  refreshes := by
    intro j p hj
    rcases made_rotated hj with hlogin | hchange | ⟨rfl, _⟩
    · cases hlogin
    · cases hchange
    · rfl
  logouts := by
    intro j p hj
    rcases made_rotated hj with hlogin | hchange | ⟨_, hrefresh⟩
    · cases hlogin
    · cases hchange
    · cases hrefresh
  quiet := observed_rotated.right.right.left
  inTime := observed_rotated.right.right.right.left
  usable := by decide +kernel
  sound := by
    intro p e hi
    rcases observed_rotated with ⟨_, _, _, _, hanswer, _⟩
    rcases made_rotated ⟨_, hi⟩ with hlogin | hchange | ⟨_, hrefresh⟩
    · cases hlogin
    · cases hchange
    · cases hrefresh
      rcases Option.isSome_iff_exists.mp hanswer with ⟨a, ha⟩
      have hanswered := answered_of_answer? ha
      cases hanswered.symm.trans hi

end Sample

open Sample

/-- The refresh with the secret of a login is answered with new credentials. -/
theorem honest_never_refused_rotated :
    ∃ first before opener after,
      rotated.history = before ++ ⟨opener, opened first⟩ :: after ∧ first.family = family ∧
      Honest facade underway opening first after ∧
      ∃ tokens, rotated.Answered 2 (.refresh secret) (.ok tokens) ∧ tokens.family = family := by
  rcases observed_rotated with ⟨_, hadds, _, _, hanswer, hsecret, hdrawn⟩
  rcases exists_opened_of_adds hadds with ⟨before, opener, first, after, hist, hfamily, hsubject⟩
  have hhonest := undisturbed_rotated.honest hist hsubject
  have hs : Reachable facade underway := ⟨Sample.world, fresh_world, reaches_underway⟩
  have hd : rotated.DistinctIds := distinctIds_run hdrawn
  rcases Option.isSome_iff_exists.mp hanswer with ⟨a, ha⟩
  rcases (Option.any_eq_true _ _).mp hsecret with ⟨r, hr, hshape⟩
  rcases honest_never_refused hs hd rfl hist hhonest with ⟨_, _, _, hserved⟩
  have hserved := hserved 2 secret _ ⟨r, hr, (beq_iff_eq.mp hshape).trans hfamily.symm⟩
    (answered_of_answer? ha)
  rcases hserved with ⟨tokens, hdone, htokens⟩ | ⟨⟨e, next, hstep⟩, _⟩ | ⟨hhalt, _⟩ | ⟨hhalt, _⟩
  · cases hdone
    exact ⟨first, before, opener, after, hist, hfamily, hhonest, tokens, answered_of_answer? ha,
      htokens.trans hfamily⟩
  · cases hstep
  · cases hhalt
  · cases hhalt

/-!
# A session that outlasts its issuer

The settings were accepted in the first minute of 1970, and a subject has logged in.  In the second
minute the lifetime of an access token leads out of the calendar.
-/

namespace Sample

def passing : World :=
  { world with supply := { supply with clock := fun n => if n < 2 then .epoch else minute } }

def entering : Service :=
  ⟨passing.readClock.2, [⟨login, endlessFacade.openSession subject⟩],
    [⟨0, named "ada@example.org" (some subject)⟩,
      ⟨0, verified "old password" subject.passwordHash⟩]⟩

theorem reachable_entering : Reachable endlessFacade entering :=
  ⟨passing, ⟨fresh_world.tokens, fresh_world.keyed⟩, _, run_verified endlessFacade passing.supply⟩

def visit : List Action :=
  List.replicate 13 (.advance 0) ++ .start (.refresh secret) :: List.replicate 16 (.advance 1)

def outlasting : Service :=
  entering.run endlessFacade visit

def halt? (s : Service) (i : Nat) : Option Halt :=
  match s.tasks[i]? with
  | some ⟨_, .halt e⟩ => some e
  | _ => none

theorem halted_of_halt? {s : Service} {i : Nat} {q : Request} {e : Halt} (hmade : s.Made i q)
    (h : halt? s i = some e) : s.tasks[i]? = some ⟨q, .halt e⟩ := by
  rcases hmade with ⟨x, hx⟩
  unfold halt? at h
  rw [hx] at h ⊢
  cases x with
  | done a => cases h
  | step e next => cases h
  | halt e' =>
      cases h
      rfl

theorem observed_outlasting :
    outlasting.tasks.map Task.request = [login, .refresh secret] ∧
    halt? outlasting 1 = some (.overflow .accessExpiry) ∧
    outlasting.history.any (fun e => adds family subject.id e.turn) = true ∧
    outlasting.history.all (fun e => !disturbs e.turn) = true ∧
    startsInTime (outlasting.past 1) = true ∧
    (outlasting.tokens.findByHash secret.hash).any (fun r => r.family == family) = true ∧
    outlasting.world.drawn.ids ≤ Nat.pow 256 16 := by
  decide +kernel

theorem made_outlasting {i : Nat} {q : Request} (h : outlasting.Made i q) :
    q = login ∨ i = 1 ∧ q = .refresh secret := by
  rcases observed_outlasting with ⟨hrequests, _⟩
  have hi := getElem?_of_made hrequests h
  match i, hi with
  | 0, hi => exact Or.inl (Option.some.inj hi).symm
  | 1, hi => exact Or.inr ⟨rfl, (Option.some.inj hi).symm⟩

theorem halted_outlasting :
    outlasting.tasks[1]? = some ⟨.refresh secret, .halt (.overflow .accessExpiry)⟩ := by
  rcases observed_outlasting with ⟨hrequests, hhalt, _⟩
  refine halted_of_halt? ?_ hhalt
  exact made_of_requests hrequests rfl

theorem undisturbed_outlasting : Undisturbed endlessFacade entering visit 1 where
  refreshes := by
    intro j p hj
    rcases made_outlasting hj with hlogin | ⟨rfl, _⟩
    · cases hlogin
    · rfl
  logouts := by
    intro j p hj
    rcases made_outlasting hj with hlogin | ⟨_, hrefresh⟩
    · cases hlogin
    · cases hrefresh
  quiet := observed_outlasting.right.right.right.left
  inTime := observed_outlasting.right.right.right.right.left
  usable := by decide +kernel
  sound := by
    intro p e hi
    cases halted_outlasting.symm.trans hi

end Sample

/-- An honest client does not always get new credentials.  Its first refresh halts, because its
access token would expire after the end of the calendar. -/
theorem honest_client_stopped :
    Access.Issuer.assemble .epoch Sample.endless = .ok endlessFacade.issuer ∧
    Reachable endlessFacade entering ∧ outlasting.DistinctIds ∧
    entering.tokens.families.get? family = none ∧
    ∃ first before opener after,
      outlasting.history = before ++ ⟨opener, opened first⟩ :: after ∧ first.family = family ∧
      Honest endlessFacade entering visit first after ∧ outlasting.HasSecret family secret ∧
      outlasting.tasks[1]? = some ⟨.refresh secret, .halt (.overflow .accessExpiry)⟩ := by
  rcases observed_outlasting with ⟨_, _, hadds, _, _, hsecret, hdrawn⟩
  rcases exists_opened_of_adds hadds with ⟨before, opener, first, after, hist, hfamily, hsubject⟩
  rcases (Option.any_eq_true _ _).mp hsecret with ⟨r, hr, hshape⟩
  have hreach : Reaches endlessFacade entering outlasting := ⟨visit, rfl⟩
  have hd : outlasting.DistinctIds :=
    distinctIds_of_supply (congrArg Supply.ids hreach.supply_eq) hdrawn
  exact ⟨assemble_endless, reachable_entering, hd, rfl, first, before, opener, after, hist, hfamily,
    undisturbed_outlasting.honest hist hsubject, ⟨r, hr, beq_iff_eq.mp hshape⟩, halted_outlasting⟩

end Service

end SessionAuth
