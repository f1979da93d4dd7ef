import SessionAuth.Proofs.Service.Accounts
import SessionAuth.Proofs.Service.HonestUse

/-!
# Subjects that may not act

Every request looks at the account of its subject before it gives anything away, each in its own
place.  So a subject that is not active, or deleted, or not there at all gets nothing from any
request that is made as long as no operator restores its account.  A refresh of its secrets takes
their family down, and then restoring the account does not help any more.
-/

namespace SessionAuth

open Time Refresh

namespace Service

variable {f : Session.Facade}

/-! # What a decision has read -/

section Turns

open SessionAuth.Flow Permission

variable {id : SubjectId} {turns : List Turn}

theorem knows_of_isAdministrator (h : (isAdministrator id).Yields turns true) :
    ∃ x, turns = [knows id (some x)] ∧ x.isUsable = true ∧ x.admin = true := by
  unfold isAdministrator at h
  rcases yields_call_bind.mp h with ⟨a, _, rfl, rfl, hany⟩
  rcases (Option.any_eq_true _ _).mp hany.symm with ⟨x, rfl, hx⟩
  rw [Bool.and_eq_true] at hx
  exact ⟨x, rfl, hx.left, hx.right⟩

theorem knows_of_adminOverride {resource : ResourceId} {required : Level}
    (h : (Permission.decide id resource required).Yields turns .adminOverride) :
    ∃ x, knows id (some x) ∈ turns ∧ x.isUsable = true ∧ x.admin = true := by
  unfold Permission.decide at h
  rcases yields_bind.mp h with ⟨live, _, _, rfl, _, hlive⟩
  cases live with
  | none =>
      rcases yields_bind.mp hlive with ⟨_, _, _, _, _, hdone⟩
      cases hdone.right
  | some r =>
      rcases yields_bind.mp hlive with ⟨held, _, _, rfl, _, hheld⟩
      rcases yields_bind.mp hheld with ⟨decision, xs, _, rfl, hdecided, hreported⟩
      rcases yields_bind.mp hreported with ⟨_, _, _, rfl, _, rfl, rfl⟩
      unfold decideHeld at hdecided
      split at hdecided
      · cases hdecided.right
      · rcases yields_bind.mp hdecided with ⟨admin, _, _, rfl, hadmin, hanswer⟩
        cases admin with
        | false => cases hanswer.right
        | true =>
            rcases knows_of_isAdministrator hadmin with ⟨x, rfl, husable, hflag⟩
            exact ⟨x, by simp, husable, hflag⟩

theorem knows_of_require {resource : ResourceId} {required : Level}
    (h : (require id resource required).Yields turns (.ok .adminOverride)) :
    ∃ x, knows id (some x) ∈ turns ∧ x.isUsable = true ∧ x.admin = true := by
  unfold require at h
  rcases yields_bind.mp h with ⟨decision, xs, _, rfl, hdecided, hdone⟩
  have hanswer := hdone.right
  split at hanswer
  · cases hanswer
    rcases knows_of_adminOverride hdecided with ⟨x, hx, hflags⟩
    exact ⟨x, List.mem_append_left _ hx, hflags⟩
  · cases hanswer

end Turns

/-! # What is read since an account is barred -/

section Reading

variable {s : Service} {actions : List Action} {id : SubjectId} (hs : Reachable f s)
  (hd : (s.run f actions).DistinctIds) (hunusable : s.Unusable id)
  (hactions : ∀ a ∈ actions, ¬ a.Restores id) {i : Nat} (hbegun : s.past i = [])
include hs hd hunusable hactions hbegun

omit hs hd in
theorem ne_of_knows {k : SubjectId} {x : Subject}
    (h : knows k (some x) ∈ (s.run f actions).past i) (husable : x.isUsable = true) : k ≠ id := by
  rintro rfl
  rcases taken_since hbegun h with ⟨pre, hpre, v, htakes, _⟩
  rcases htakes.perform with ⟨now, hperform⟩
  have hfound := (Store.perform_findById hperform).symm
  have haccount := (Option.filter_eq_some_iff.mp hfound).left
  have hbarred := hunusable.run (f := f) (fun a ha => hactions a (hpre.subset ha))
  rw [hbarred x haccount] at husable
  cases husable

theorem ne_of_named {identifier : String} {x : Subject}
    (h : named identifier (some x) ∈ (s.run f actions).past i) (husable : x.isUsable = true) :
    x.id ≠ id := by
  rintro rfl
  rcases taken_since hbegun h with ⟨pre, hpre, v, htakes, hafter⟩
  rcases htakes.perform with ⟨now, hperform⟩
  have hfound : (s.run f pre).world.store.subjects.findByIdentifier identifier = some x :=
    (Store.perform_findByIdentifier hperform).symm
  have hreach : Reachable f (s.run f pre) := hs.trans ⟨pre, rfl⟩
  have hkeyed := (hreach.invariant (hd.of_reaches (htakes.reaches.trans hafter))).keyed
  have hbarred := hunusable.run (f := f) (fun a ha => hactions a (hpre.subset ha))
  rw [hbarred x (hkeyed.findByIdentifier hfound).left] at husable
  cases husable

end Reading

/-! # Nothing for a barred subject -/

/-- What the requests that were made since some state have got for a subject by a later one:
nothing. -/
structure Denied (f : Session.Facade) (s t : Service) (id : SubjectId) : Prop where
  login : ∀ i identifier password tokens, s.past i = [] →
    t.Answered i (.login identifier password) (.ok tokens) → tokens.subject ≠ id
  refresh : ∀ i p tokens, s.past i = [] → t.Answered i (.refresh p) (.ok tokens) →
    tokens.subject ≠ id ∧ ∀ r, t.tokens.findByHash p.hash = some r → r.subject ≠ id
  changePassword : ∀ i current new, s.past i = [] →
    ¬ t.Answered i (.changePassword id current new) (.ok ())
  decide : ∀ i resource required, s.past i = [] →
    ¬ t.Answered i (.decide id resource required) .adminOverride
  require : ∀ i resource required, s.past i = [] →
    ¬ t.Answered i (.require id resource required) (.ok .adminOverride)
  manageGrants : ∀ i resource, s.past i = [] →
    ¬ t.Answered i (.manageGrants id resource) (.ok .adminOverride)

/-- A family that is lost: from some state on it is withdrawn with all its records, whatever
happens, and a refresh of one of its secrets that gets new credentials has made its exchange
before. -/
def Lost (f : Session.Facade) (s : Service) (fam : FamilyId) : Prop :=
  ∀ t, Reaches f s t → t.DistinctIds →
    t.Withdrawn fam ∧
    (∀ id r, t.tokens.records.get? id = some r → r.family = fam → r.state = .revoked) ∧
    ∀ k p tokens, t.HasSecret fam p → t.Answered k (.refresh p) (.ok tokens) →
      ∃ turn ∈ s.past k, ∃ id, turn.Exchanges id

theorem Withdrawn.lost {s : Service} (hs : Reachable f s) {fam : FamilyId}
    (h : s.Withdrawn fam) : Lost f s fam := by
  intro t hst hd
  have hinv := (hs.trans hst).invariant hd
  have hlater := h.later hs hst hd
  refine ⟨hlater, fun id r hr hfamily => hinv.revoked_of_withdrawn hlater hr hfamily, ?_⟩
  intro k p tokens hsecret hanswered
  rcases hsecret with ⟨q, hq, hfamily⟩
  rcases hinv.exchanged_of_answered hanswered with ⟨r, next, hfound, hexchanged, hsame, _, _⟩
  by_cases hold : exchanged r.id next .applied ∈ s.past k
  · exact ⟨_, hold, r.id, next, rfl⟩
  · have hnew : ⟨k, exchanged r.id next .applied⟩ ∉ s.history := fun h => hold (mem_past.mpr h)
    rcases hinv.get?_of_found hfound with ⟨_, r', hr', hrr⟩
    have hother := h.not_exchanged hs hst hd (mem_past.mp hexchanged) hnew ⟨next, rfl⟩ hr'
    have hpresented := hinv.family_of_presented hanswered hq
    exact absurd (hrr.family.trans (hsame.trans (hpresented.symm.trans hfamily))) hother

section Requests

variable {s : Service} {actions : List Action} {id : SubjectId} (hs : Reachable f s)
  (hd : (s.run f actions).DistinctIds) (hunusable : s.Unusable id)
  (hactions : ∀ a ∈ actions, ¬ a.Restores id)
include hs hd hunusable hactions

theorem subject_ne_of_login {i : Nat} {identifier password : String} {tokens : Session.Tokens}
    (hbegun : s.past i = [])
    (h : (s.run f actions).Answered i (.login identifier password) (.ok tokens)) :
    tokens.subject ≠ id := by
  have hinv := (hs.trans ⟨actions, rfl⟩).invariant hd
  have hends : LogsIn f identifier password _ (.ok tokens) := h.ends hinv
  generalize hresult : (Except.ok tokens : Except Failure Session.Tokens) = result at hends
  cases hends with
  | refused hcalls => cases hresult
  | opened hcalls hverified husable hissued =>
      cases hresult
      exact ne_of_named hs hd hunusable hactions hbegun
        (Turn.mem_of_calls hcalls List.mem_cons_self) husable

theorem subject_ne_of_refresh {i : Nat} {p : Secret} {tokens : Session.Tokens}
    (hbegun : s.past i = []) (h : (s.run f actions).Answered i (.refresh p) (.ok tokens)) :
    tokens.subject ≠ id ∧
      ∀ r, (s.run f actions).tokens.findByHash p.hash = some r → r.subject ≠ id := by
  have hreach : Reachable f (s.run f actions) := hs.trans ⟨actions, rfl⟩
  have hinv := hreach.invariant hd
  rcases h.ends hinv with ⟨x, hrotates, hx⟩
  cases hrotates with
  | renewed hcalls hhash hstate husable hgeneration hissued =>
      rename_i r y generation secret next access
      injection hx with hx
      have hknows : knows r.subject (some y) ∈ (s.run f actions).past i :=
        Turn.mem_of_calls hcalls (by simp)
      have hfound : found p (some r) ∈ (s.run f actions).past i :=
        Turn.mem_of_calls hcalls (by simp)
      have hother := ne_of_knows hunusable hactions hbegun hknows husable
      have hid : y.id = r.subject := hinv.attested _ (mem_past.mp hknows)
      constructor
      · rw [hx]
        exact fun heq => hother (hid.symm.trans heq)
      · intro q hq
        rcases hinv.get?_of_found hfound with ⟨hhash', r', hr', hrr⟩
        have hsame := hinv.coherent.findByHash_of_get? hr'
        rw [hrr.tokenHash, hhash', hq] at hsame
        cases hsame
        rw [hrr.subject]
        exact hother
  | _ => cases hx

theorem not_changePassword {i : Nat} {current new : String} (hbegun : s.past i = []) :
    ¬ (s.run f actions).Answered i (.changePassword id current new) (.ok ()) := by
  intro h
  have hinv := (hs.trans ⟨actions, rfl⟩).invariant hd
  have hends : Changes f id current new _ (.ok ()) := h.ends hinv
  generalize hresult : (Except.ok () : Except Failure Unit) = result at hends
  cases hends with
  | refused hcalls => cases hresult
  | changed hcalls hverified husable hsalt =>
      exact ne_of_knows hunusable hactions hbegun
        (Turn.mem_of_calls hcalls List.mem_cons_self) husable rfl

theorem denied : Denied f s (s.run f actions) id := by
  have hreach : Reachable f (s.run f actions) := hs.trans ⟨actions, rfl⟩
  have hbarred : ∀ i, s.past i = [] →
      ¬ ∃ x, knows id (some x) ∈ (s.run f actions).past i ∧ x.isUsable = true ∧
        x.admin = true := by
    intro i hbegun h
    rcases h with ⟨x, hknows, husable, _⟩
    exact ne_of_knows hunusable hactions hbegun hknows husable rfl
  constructor
  case login =>
      intro i identifier password tokens hbegun h
      exact subject_ne_of_login hs hd hunusable hactions hbegun h
  case refresh =>
      intro i p tokens hbegun h
      exact subject_ne_of_refresh hs hd hunusable hactions hbegun h
  case changePassword =>
      intro i current new hbegun
      exact not_changePassword hs hd hunusable hactions hbegun
  case decide =>
      intro i resource required hbegun h
      exact hbarred i hbegun (knows_of_adminOverride (hreach.yields h))
  case require =>
      intro i resource required hbegun h
      exact hbarred i hbegun (knows_of_require (hreach.yields h))
  case manageGrants =>
      intro i resource hbegun h
      exact hbarred i hbegun (knows_of_require (hreach.yields h))

theorem failed_of_fails {i : Nat} {p : Secret} {r : Record} {e : Halt} (hbegun : s.past i = [])
    (hfound : found p (some r) ∈ (s.run f actions).past i) (hsubject : r.subject = id)
    (h : Fails f (.refresh p) ((s.run f actions).past i) e) :
    ∃ c error, ⟨.store c, .error error⟩ ∈ (s.run f actions).past i ∧ e = .fault (.store error) := by
  have hinv := (hs.trans ⟨actions, rfl⟩).invariant hd
  have hother : ∀ {r' : Record} {x : Subject}, found p (some r') ∈ (s.run f actions).past i →
      knows r'.subject (some x) ∈ (s.run f actions).past i → x.isUsable = true → False := by
    intro r' x hfound' hknows husable
    apply ne_of_knows hunusable hactions hbegun hknows husable
    rcases hinv.get?_of_found hfound with ⟨_, q, hq, hrq⟩
    rcases hinv.get?_of_found hfound' with ⟨_, q', hq', hrq'⟩
    rw [(hinv.found_same hfound hfound').left, hq'] at hq
    cases hq
    exact hrq'.subject.symm.trans (hrq.subject.trans hsubject)
  cases h with
  | call hfailed => exact ⟨_, _, hfailed, rfl⟩
  | refresh hfound' hknows husable _ _ => exact (hother hfound' hknows husable).elim
  | generation hfound' hknows husable _ => exact (hother hfound' hknows husable).elim

end Requests

/-! # Every run -/

/-- From a state in which a subject is not active, or deleted, or not there, and during any actions
among which no operator restores it: no request made since gets anything for the subject.  A
refresh that has read one of its records before it had expired is refused and leaves the family
lost, also for the time after its account has been restored, unless it is still in flight, which
it is for fewer than fourteen turns, or one of its calls of the store has failed. -/
theorem unusable_gets_nothing {s : Service} {actions : List Action} {id : SubjectId}
    (hs : Reachable f s) (hd : (s.run f actions).DistinctIds) (hunusable : s.Unusable id)
    (hactions : ∀ a ∈ actions, ¬ a.Restores id) :
    Denied f s (s.run f actions) id ∧
    ∀ (i : Nat) p x r, s.past i = [] → (s.run f actions).tasks[i]? = some ⟨.refresh p, x⟩ →
      found p (some r) ∈ (s.run f actions).past i → r.subject = id →
      InTime p ((s.run f actions).past i) →
      (∃ failure, x = .done (.error failure) ∧ Lost f (s.run f actions) r.family) ∨
      ((∃ e next, x = .step e next) ∧ ((s.run f actions).past i).length < 14) ∨
      ∃ c error, ⟨.store c, .error error⟩ ∈ (s.run f actions).past i ∧
        x = .halt (.fault (.store error)) := by
  have hreach : Reachable f (s.run f actions) := hs.trans ⟨actions, rfl⟩
  have hinv := hreach.invariant hd
  refine ⟨denied hs hd hunusable hactions, ?_⟩
  intro i p x r hbegun hi hfound hsubject htime
  have hbounded := hreach.bounded_rest (bounded_refresh f p) hi
  cases x with
  | step e next =>
      have hpos := (Flow.bounded_step.mp hbounded).left
      exact Or.inr (Or.inl ⟨⟨e, next, rfl⟩, by omega⟩)
  | halt e =>
      have hfails := (Flow.bounded_halt e).mp hbounded
      rcases failed_of_fails hs hd hunusable hactions hbegun hfound hsubject hfails with
        ⟨c, error, hfailed, rfl⟩
      exact Or.inr (Or.inr ⟨c, error, hfailed, rfl⟩)
  | done a =>
      have hanswered : (s.run f actions).Answered i (.refresh p) a := hi
      cases a with
      | ok tokens =>
          have hother := (subject_ne_of_refresh hs hd hunusable hactions hbegun hanswered).right
          rcases hinv.get?_of_found hfound with ⟨hhash, q, hq, hrq⟩
          have hpresent := hinv.coherent.findByHash_of_get? hq
          rw [hrq.tokenHash, hhash] at hpresent
          exact absurd (hrq.subject.trans hsubject) (hother q hpresent)
      | error failure =>
          have hwithdrawn := hinv.withdrawn_of_refused hanswered hfound htime
          exact Or.inl ⟨failure, rfl, hwithdrawn.lost hreach⟩

/-! # A session of an account that is barred -/

namespace Sample

def barred : Service :=
  underway.run facade
    (List.replicate 13 (.advance 0) ++ [.operate (.setActive subject.id false)])

def attempt : List Action :=
  .start (.refresh secret) :: List.replicate 16 (.advance 2)

theorem unusable_barred : barred.Unusable subject.id := by
  have haccount : (barred.account subject.id).all (fun x => !x.isUsable) = true := by
    decide +kernel
  intro x hx
  rw [hx] at haccount
  simpa using haccount

theorem not_restores_attempt : ∀ a ∈ attempt, ¬ a.Restores subject.id := by
  intro a ha hrestores
  rcases List.mem_cons.mp ha with rfl | hadvance
  · exact hrestores
  · rw [List.eq_of_mem_replicate hadvance] at hrestores
    exact hrestores

theorem observed_attempt :
    (barred.past 2).isEmpty = true ∧
    (((barred.run facade attempt).past 2).any (finds secret) &&
      startsInTime ((barred.run facade attempt).past 2)) = true ∧
    (barred.run facade attempt).tokens.records.entries.all
      (fun e => e.2.subject == subject.id && e.2.family == family) = true ∧
    ((barred.run facade attempt).answer? 2 (.refresh secret)).isSome = true := by
  decide +kernel

end Sample

open Sample

/-- A refresh for an account that was barred takes the family down for good. -/
theorem unusable_gets_nothing_barred :
    Reachable facade barred ∧ (barred.run facade attempt).DistinctIds ∧
      barred.Unusable subject.id ∧ (∀ a ∈ attempt, ¬ a.Restores subject.id) ∧
      Denied facade barred (barred.run facade attempt) subject.id ∧
      Lost facade (barred.run facade attempt) family := by
  have hs : Reachable facade barred := reachable_run _
  have hd : (barred.run facade attempt).DistinctIds := by
    unfold barred
    rw [← run_append]
    exact distinctIds_run (by decide +kernel)
  have hinv := (hs.trans ⟨attempt, rfl⟩).invariant hd
  rcases observed_attempt with ⟨hbegun, hread, hrecords, hanswer⟩
  rcases readInTime_of_check hread with ⟨⟨r, hfound⟩, htime⟩
  rcases Option.isSome_iff_exists.mp hanswer with ⟨a, ha⟩
  have hanswered := answered_of_answer? ha
  rcases hinv.get?_of_found hfound with ⟨_, q, hq, hrq⟩
  have hrecord := List.all_eq_true.mp hrecords _ (Registry.mem_entries.mpr hq)
  rw [Bool.and_eq_true, beq_iff_eq, beq_iff_eq] at hrecord
  rcases unusable_gets_nothing hs hd unusable_barred not_restores_attempt with ⟨hdenied, hrefused⟩
  refine ⟨hs, hd, unusable_barred, not_restores_attempt, hdenied, ?_⟩
  rcases hrefused 2 secret _ r (List.isEmpty_iff.mp hbegun) hanswered hfound
    (hrq.subject.symm.trans hrecord.left) htime with
    ⟨_, _, hlost⟩ | ⟨⟨_, _, hstep⟩, _⟩ | ⟨_, _, _, hhalt⟩
  · rw [← hrecord.right, hrq.family]
    exact hlost
  · cases hstep
  · cases hhalt

end Service

end SessionAuth
