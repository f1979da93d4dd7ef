import SessionAuth.Proofs.Service.Accounts
import SessionAuth.Proofs.Service.Backing

/-!
# Lines of credentials

A login starts a line of credentials, and each refresh that presents the last secret of the line
goes on with it.  Token, record and answer are put together from the same copies of the subject
and the family, and each new pair takes them over from the last one, so the whole line speaks of
one subject and one family, however long it is.
-/

namespace SessionAuth

open Time Refresh

/-- A turn in which an account was read. -/
def Turn.Finds (turn : Turn) (x : Subject) : Prop :=
  (∃ identifier, turn = Service.named identifier (some x)) ∨
    ∃ id, turn = Service.knows id (some x)

namespace Service

variable {f : Session.Facade}

/-! # What stands behind a pair -/

/-- What stands behind credentials that a task was answered with: a usable account that it has
read, and a record that it has stored. -/
structure Paired (f : Session.Facade) (s : Service) (i : Nat) (tokens : Session.Tokens)
    (x : Subject) (r : Record) (u v : Service) : Prop where
  read : ∃ turn u' v', turn.Finds x ∧ Moment f s i turn u' v' ∧
    u'.account tokens.subject = some x
  usable : x.isUsable = true
  stored : ∃ turn, turn.Stores r ∧ Moment f s i turn u v
  backed : Backs v.tokens tokens r.id r
  kept : (∃ q, Backs s.tokens tokens r.id q) ∨
    ∃ e ∈ s.history, e ∉ v.history ∧ e.task ≠ i ∧
      (e.turn.Exchanges r.id ∨ e.turn.Withdraws tokens.family)
  -- If nobody else has taken a turn since the task began, the table is still that of `v`.
  alone : ∀ before after, s.history = before ++ after → (∀ turn, ⟨i, turn⟩ ∉ before) →
    (∀ e ∈ after, e.task = i) → s.tokens = v.tokens
  -- No claim of a token is a time before 1970, so the clock must not show one.
  vouches : (∀ n, .epoch ≤ s.world.supply.clock n) →
    Session.Vouches f tokens.access tokens.subject tokens.family x.admin

/-- A record that is the first one of a new family. -/
structure Opens (tokens : Session.Tokens) (r : Record) (t u : Table) : Prop where
  generation : r.generation = 0
  new : t.families.get? tokens.family = none
  bare : ∀ id q, t.records.get? id = some q → q.family ≠ tokens.family
  family : u.families.get? tokens.family = some ⟨tokens.subject, [r.id], none⟩
  only : ∀ id q, u.records.get? id = some q → q.family = tokens.family → id = r.id

/-- A record that takes the place of the active record of a secret. -/
structure Follows (p : Secret) (tokens : Session.Tokens) (r q : Record) (t : Table) : Prop where
  presented : t.findByHash p.hash = some q
  active : q.state = .active
  family : q.family = tokens.family
  subject : q.subject = tokens.subject
  generation : r.generation = q.generation + 1

section Paired

variable {s u v : Service} {start : Instant} {settings : TokenSettings}
  (ha : Access.Issuer.assemble start settings = .ok f.issuer) (hd : s.DistinctIds) {i : Nat}
  {x : Subject} {r : Record} {tokens : Session.Tokens} {generation : Int}

include ha hd in
theorem Last.paired {turn : Turn} (h : Last f s i turn u v) (hstores : turn.Stores r)
    (hmakes : Makes f.issuer (s.past i) x generation r tokens) (husable : x.isUsable = true)
    (hread : ∃ turn u' v', turn.Finds x ∧ Moment f s i turn u' v' ∧ u'.account x.id = some x) :
    Paired f s i tokens x r u v := by
  constructor
  case read =>
      rw [hmakes.subject]
      exact hread
  case usable => exact husable
  case stored => exact ⟨turn, hstores, h.moment⟩
  case backed => exact backs_of_stores h hd hstores hmakes
  case kept => exact backs_or_touched h hd hstores hmakes
  case alone =>
      intro before after hist hbefore hafter
      exact h.tokens_eq hist hbefore hafter
  case vouches =>
      intro hclock
      rcases hmakes.access with ⟨t, id, hnow, haccess⟩
      rcases h.moment.reachable.exists_instant hnow with ⟨n, hn⟩
      rw [hmakes.subject]
      exact Session.vouches_of_issueAccess ha (hn ▸ hclock n) haccess

include hd in
/-- The record of a pair can be found by its secret for ever. -/
theorem Paired.found (h : Paired f s i tokens x r u v) :
    ∃ q, s.tokens.findByHash tokens.refresh.hash = some q ∧ r.Evolves q := by
  rcases h.stored with ⟨turn, _, hmoment⟩
  have hv := hmoment.reachable_after
  rcases (hv.evolves hmoment.after hd).records _ _ h.backed.stored with ⟨q, hq, hrq⟩
  have hfound := (hmoment.reachable.invariant hd).coherent.findByHash_of_get? hq
  rw [hrq.tokenHash, h.backed.hash] at hfound
  exact ⟨q, hfound, hrq⟩

end Paired

/-! # Logins -/

section Login

variable {s u v : Service} {i : Nat} {identifier password : String}

theorem Moment.found_of_named {y : Option Subject}
    (h : Moment f s i (named identifier y) u v) :
    u.world.store.subjects.findByIdentifier identifier = y := by
  rcases h.takes.perform with ⟨now, hperform⟩
  exact (Store.perform_findByIdentifier hperform).symm

theorem Moment.opens (hd : s.DistinctIds) {r : Record} (h : Moment f s i (opened r) u v)
    {tokens : Session.Tokens} {x : Subject} {turns : List Turn}
    (hmakes : Makes f.issuer turns x 0 r tokens) : Opens tokens r u.tokens v.tokens := by
  rcases hmakes.record with ⟨_, hfamily, hsubject, _, _, hgeneration⟩
  rcases h.takes.perform with ⟨now, hperform⟩
  rcases Table.insert_eq_ok (Store.perform_insert hperform).left with ⟨hnew, _, htable⟩
  have hcoherent := (h.before.invariant (hd.of_reaches h.reaches)).coherent
  have hbare : ∀ id q, u.tokens.records.get? id = some q → q.family ≠ tokens.family := by
    intro id q hq heq
    rcases hcoherent.listed id q hq with ⟨g, hg, _⟩
    rw [heq, ← hfamily] at hg
    rw [hnew] at hg
    cases hg
  have htokens : v.tokens = u.tokens.withFamily r := htable
  constructor
  case generation => exact hgeneration
  case new =>
      rw [← hfamily]
      exact hnew
  case bare => exact hbare
  case family =>
      rw [htokens, Table.get?_families_withFamily, if_pos hfamily.symm, hsubject]
  case only =>
      intro id q hq heq
      rw [htokens, Table.get?_records_withFamily] at hq
      split at hq
      case isTrue hid => exact hid
      case isFalse => exact absurd heq (hbare id q hq)

/-- How far a login has come: it was answered as the account that it has read demands, or it goes
on for fewer than fifteen turns in all, or it has failed for want of the store or of a signature. -/
inductive Proceeds (f : Session.Facade) (s : Service) (i : Nat) (identifier password : String) :
    Flow (Except Failure Session.Tokens) → Prop where
  | answered {a : Except Failure Session.Tokens} {y : Option Subject} {u v : Service}
      (hread : Moment f s i (named identifier y) u v)
      (hfound : u.world.store.subjects.findByIdentifier identifier = y)
      (hadmits : (∃ tokens, a = .ok tokens) ↔
        ∃ x, y = some x ∧ x.isUsable = true ∧ Password.verify password x.passwordHash = .same)
      (hrefused : ∀ failure, a = .error failure →
        ∀ turn u' v', Moment f s i turn u' v' → v'.world.store = u'.world.store) :
      Proceeds f s i identifier password (.done a)
  | underway {e : Effect} {next : e.Reply → Flow (Except Failure Session.Tokens)}
      (hshort : (s.past i).length < 15) : Proceeds f s i identifier password (.step e next)
  | failed {e : Halt} (hfails : Fails f (.login identifier password) (s.past i) e) :
      Proceeds f s i identifier password (.halt e)

theorem Reachable.proceeds_of_answered (hs : Reachable f s) (hd : s.DistinctIds)
    {a : Except Failure Session.Tokens} (h : s.Answered i (.login identifier password) a) :
    Proceeds f s i identifier password (.done a) := by
  rcases yields_login (hs.yields h) with ⟨y, henters⟩
  cases henters with
  | admitted hturns husable hmakes hcalls =>
      rename_i x tokens r t rest
      have hnamed : named identifier (some x) ∈ s.past i := by
        rw [hturns]
        exact List.mem_cons_self
      rcases hs.moment_of_mem hnamed with ⟨u, v, hread⟩
      have hchecked : verified password x.passwordHash ∈ s.past i := by
        rw [hturns]
        exact List.mem_cons_of_mem _ List.mem_cons_self
      have hverified := hs.verify_of_verified hchecked
      refine Proceeds.answered hread hread.found_of_named ?_ ?_
      · constructor
        · intro _
          exact ⟨x, rfl, husable, hverified⟩
        · intro _
          exact ⟨tokens, rfl⟩
      · intro failure hfailure
        cases hfailure
  | refused hread hreason =>
      rename_i failure
      rcases hs.moment_of_mem hread with ⟨u, v, hmoment⟩
      refine Proceeds.answered hmoment hmoment.found_of_named ?_ ?_
      · constructor
        · intro haccepted
          rcases haccepted with ⟨tokens, htokens⟩
          cases htokens
        · intro haccount
          rcases haccount with ⟨x, hx, husable, hverifies⟩
          rcases hreason x hx husable with ⟨w, hverified, hdiffers⟩
          exact absurd ((hs.verify_of_verified hverified).symm.trans hverifies) hdiffers
      · intro _ _ turn u' v' hturn
        have hends : LogsIn f identifier password (s.past i) (.error failure) :=
          h.ends (hs.invariant hd)
        cases hends with
        | refused hcalls => exact hturn.store_eq hcalls rfl

theorem Reachable.proceeds (hs : Reachable f s) (hd : s.DistinctIds)
    {x : Flow (Except Failure Session.Tokens)}
    (hi : s.tasks[i]? = some ⟨.login identifier password, x⟩) :
    Proceeds f s i identifier password x := by
  have hbounded := hs.bounded_rest (bounded_login f identifier password) hi
  cases x with
  | done a => exact hs.proceeds_of_answered hd hi
  | step e next =>
      have hpos := (Flow.bounded_step.mp hbounded).left
      exact Proceeds.underway (by omega)
  | halt e => exact Proceeds.failed ((Flow.bounded_halt e).mp hbounded)

/-- A login that has succeeded has opened a family. -/
theorem Reachable.paired_login {start : Instant} {settings : TokenSettings}
    (hs : Reachable f s) (hd : s.DistinctIds)
    (ha : Access.Issuer.assemble start settings = .ok f.issuer) {tokens : Session.Tokens}
    (h : s.Answered i (.login identifier password) (.ok tokens)) :
    ∃ x r u v, Paired f s i tokens x r u v ∧ Opens tokens r u.tokens v.tokens := by
  rcases yields_login (hs.yields h) with ⟨y, henters⟩
  generalize hanswer : (Except.ok tokens : Except Failure Session.Tokens) = a at henters
  cases henters with
  | refused => cases hanswer
  | admitted hturns husable hmakes hcalls =>
      rename_i x _ r t rest
      cases hanswer
      have hstored : Turn.calls (s.past i) = [named identifier (some x)] ++ opened r ::
          [Turn.answered (.recordAuthentication x.id t) ()] := by
        rw [hturns]
        change named identifier (some x) :: Turn.calls rest = _
        rw [hcalls]
        rfl
      have hleaves : ∀ turn ∈ [Turn.answered (.recordAuthentication x.id t) ()],
          turn.LeavesTable := by
        intro turn hturn c a heq
        cases List.mem_singleton.mp hturn
        cases heq
        exact Or.inr ⟨x.id, t, rfl⟩
      rcases hs.last hstored hleaves with ⟨u, v, hlast, _⟩
      have hnamed : named identifier (some x) ∈ s.past i :=
        Turn.mem_of_calls hstored List.mem_cons_self
      rcases hs.moment_of_mem hnamed with ⟨u', v', hread⟩
      have hkeyed := (hread.before.invariant (hd.of_reaches hread.reaches)).keyed
      have haccount := (hkeyed.findByIdentifier hread.found_of_named).left
      refine ⟨x, r, u, v, ?_, hlast.moment.opens hd hmakes⟩
      exact hlast.paired ha hd (Or.inl rfl) hmakes husable
        ⟨_, u', v', Or.inl ⟨identifier, rfl⟩, hread, haccount⟩

end Login

/-! # Refreshes -/

section Refresh

variable {s u v : Service} {i : Nat} {p : Secret} {tokens : Session.Tokens}

theorem Moment.follows (hd : s.DistinctIds) {q r : Record} {x : Subject}
    (h : Moment f s i (exchanged q.id r .applied) u v)
    (hfound : found p (some q) ∈ u.past i) (hsubject : x.id = q.subject)
    (hrenews : Renews f p (s.past i) q x r tokens) :
    ∃ q', Follows p tokens r q' u.tokens := by
  have hu := h.before.invariant (hd.of_reaches h.reaches)
  rcases hu.get?_of_found hfound with ⟨hhash, q', hq', hqq'⟩
  rcases hrenews.makes with ⟨generation, hnext, hmakes⟩
  refine ⟨q', ?_⟩
  constructor
  case presented =>
      rw [← hhash, ← hqq'.tokenHash]
      exact hu.coherent.findByHash_of_get? hq'
  case active =>
      rcases h.takes.perform with ⟨now, hperform⟩
      have hexchange := Table.transition_cases (Store.perform_transition hperform).left
      change u.world.store.tokens.records.get? q.id = some q' at hq'
      generalize v.world.store.tokens = table at hexchange
      cases hexchange with
      | applied hrecord _ hstate =>
          rw [hrecord] at hq'
          cases hq'
          exact hstate
  case family => exact hqq'.family.trans hrenews.family.symm
  case subject => rw [hqq'.subject, hmakes.subject, hsubject]
  case generation =>
      unfold Session.nextGeneration at hnext
      split at hnext
      · cases hnext
        rw [hmakes.record.right.right.right.right.right, hqq'.generation]
      · cases hnext

/-- A refresh that has succeeded has exchanged the record that was presented. -/
theorem Reachable.paired_refresh {start : Instant} {settings : TokenSettings}
    (hs : Reachable f s) (hd : s.DistinctIds)
    (ha : Access.Issuer.assemble start settings = .ok f.issuer)
    (h : s.Answered i (.refresh p) (.ok tokens)) :
    ∃ x r u v, Paired f s i tokens x r u v ∧ ∃ q, Follows p tokens r q u.tokens := by
  rcases yields_refresh (hs.yields h) with ⟨q, x, r, hrenews, _⟩
  rcases hrenews.makes with ⟨generation, _, hmakes⟩
  have hknows : knows q.subject (some x) ∈ s.past i :=
    Turn.mem_of_calls hrenews.calls (by simp)
  rcases hs.moment_of_mem hknows with ⟨u', v', hread⟩
  have haccount := hread.account_of_knows.left
  have hkeyed := (hread.before.invariant (hd.of_reaches hread.reaches)).keyed
  have hid : x.id = q.subject := hkeyed _ x haccount
  have hstored : Turn.calls (s.past i) = [found p (some q), knows q.subject (some x)] ++
      exchanged q.id r .applied :: [] := hrenews.calls
  rcases hs.last hstored (by simp) with ⟨u, v, hlast, hcalls⟩
  refine ⟨x, r, u, v, ?_, ?_⟩
  · rw [← hid] at haccount
    exact hlast.paired ha hd (Or.inr ⟨_, rfl⟩) hmakes hrenews.usable
      ⟨_, u', v', Or.inr ⟨_, rfl⟩, hread, haccount⟩
  · exact hlast.moment.follows hd (Turn.mem_of_calls hcalls (by simp)) hid hrenews

end Refresh

/-! # Lines -/

/-- The credentials to which a number of refreshes have led that each presented the last secret,
after a login with some first credentials. -/
inductive Descends (s : Service) (first : Session.Tokens) : Nat → Session.Tokens → Prop where
  | login {i : Nat} {identifier password : String}
      (h : s.Answered i (.login identifier password) (.ok first)) : Descends s first 0 first
  | refresh {k i : Nat} {last tokens : Session.Tokens} (hlast : Descends s first k last)
      (h : s.Answered i (.refresh last.refresh) (.ok tokens)) : Descends s first (k + 1) tokens

/-- What credentials of a line have in common with its first ones, and the generation of their
record. -/
structure Inherits (f : Session.Facade) (s : Service) (first : Session.Tokens) (k : Nat)
    (tokens : Session.Tokens) : Prop where
  subject : tokens.subject = first.subject
  family : tokens.family = first.family
  record : ∃ r, s.tokens.findByHash tokens.refresh.hash = some r ∧ r.generation = k ∧
    r.family = first.family ∧ r.subject = first.subject
  vouches : (∀ n, .epoch ≤ s.world.supply.clock n) →
    ∃ admin, Session.Vouches f tokens.access first.subject first.family admin

section Line

variable {s : Service} {start : Instant} {settings : TokenSettings} (hs : Reachable f s)
  (hd : s.DistinctIds) (ha : Access.Issuer.assemble start settings = .ok f.issuer)
  {first : Session.Tokens}
include hs hd ha

theorem Inherits.refresh {k i : Nat} {last tokens : Session.Tokens}
    (hlast : Inherits f s first k last)
    (h : s.Answered i (.refresh last.refresh) (.ok tokens)) :
    Inherits f s first (k + 1) tokens := by
  rcases hs.paired_refresh hd ha h with ⟨x, r, u, v, hpaired, q, hfollows⟩
  rcases hlast.record with ⟨r₀, hr₀, hgeneration, hfamily, hsubject⟩
  rcases hpaired.stored with ⟨_, _, hmoment⟩
  rcases (hmoment.before.evolves hmoment.reaches hd).findByHash hfollows.presented with
    ⟨q', hq', hqq'⟩
  rw [hr₀] at hq'
  cases hq'
  have hsame : tokens.family = first.family := by
    rw [← hfollows.family, ← hqq'.family, hfamily]
  have hown : tokens.subject = first.subject := by
    rw [← hfollows.subject, ← hqq'.subject, hsubject]
  constructor
  case subject => exact hown
  case family => exact hsame
  case record =>
      rcases hpaired.found hd with ⟨r', hr', hrr'⟩
      refine ⟨r', hr', ?_, ?_, ?_⟩
      · rw [hrr'.generation, hfollows.generation, ← hqq'.generation, hgeneration]
        push_cast
        rfl
      · rw [hrr'.family, hpaired.backed.family, hsame]
      · rw [hrr'.subject, hpaired.backed.subject, hown]
  case vouches =>
      intro hclock
      rw [← hown, ← hsame]
      exact ⟨x.admin, hpaired.vouches hclock⟩

theorem Descends.inherits {k : Nat} {tokens : Session.Tokens} (h : Descends s first k tokens) :
    Inherits f s first k tokens := by
  induction h with
  | login h =>
      rcases hs.paired_login hd ha h with ⟨x, r, u, v, hpaired, hopens⟩
      rcases hpaired.found hd with ⟨r', hr', hrr'⟩
      constructor
      case subject => rfl
      case family => rfl
      case record =>
          refine ⟨r', hr', ?_, ?_, ?_⟩
          · rw [hrr'.generation, hopens.generation]
            rfl
          · rw [hrr'.family, hpaired.backed.family]
          · rw [hrr'.subject, hpaired.backed.subject]
      case vouches =>
          intro hclock
          exact ⟨x.admin, hpaired.vouches hclock⟩
  | refresh _ h ih => exact ih.refresh hs hd ha h

end Line

/-! # Every run -/

/-- The issuer of the service has been assembled from some settings.  Whatever requests are in
flight, a login is answered with credentials exactly if it has read a usable account whose hash
verifies the password, unless the store or the signing fails.  The credentials of a login and of a
refresh come from one account and one record, and all those of a line speak of one subject and one
family. -/
theorem lines_coherent {s : Service} {start : Instant} {settings : TokenSettings}
    (ha : Access.Issuer.assemble start settings = .ok f.issuer) (hs : Reachable f s)
    (hd : s.DistinctIds) :
    (∀ i identifier password (x : Flow (Except Failure Session.Tokens)),
      s.tasks[i]? = some ⟨.login identifier password, x⟩ →
        Proceeds f s i identifier password x) ∧
    (∀ i identifier password tokens, s.Answered i (.login identifier password) (.ok tokens) →
      ∃ x r u v, Paired f s i tokens x r u v ∧ Opens tokens r u.tokens v.tokens) ∧
    (∀ i p tokens, s.Answered i (.refresh p) (.ok tokens) →
      ∃ x r u v, Paired f s i tokens x r u v ∧ ∃ q, Follows p tokens r q u.tokens) ∧
    ∀ first k tokens, Descends s first k tokens → Inherits f s first k tokens := by
  refine ⟨?_, ?_, ?_, ?_⟩
  · intro i identifier password x hi
    exact hs.proceeds hd hi
  · intro i identifier password tokens h
    exact hs.paired_login hd ha h
  · intro i p tokens h
    exact hs.paired_refresh hd ha h
  · intro first k tokens h
    exact h.inherits hs hd ha

def Sample.settings : TokenSettings where
  issuer := "service"
  activeKeyId := "key"
  keys := issuer.keys
  accessMinutes := 15
  refreshDays := 7

def Sample.gives (p : Secret) : Except Failure Session.Tokens → Bool
  | .ok tokens => tokens.refresh == p
  | .error _ => false

theorem Sample.eq_ok_of_gives {p : Secret} {a : Option (Except Failure Session.Tokens)}
    (h : a.any (gives p) = true) : ∃ tokens, a = some (.ok tokens) ∧ tokens.refresh = p := by
  rcases (Option.any_eq_true _ _).mp h with ⟨answer, ha, hgives⟩
  cases answer with
  | ok tokens => exact ⟨tokens, ha, beq_iff_eq.mp hgives⟩
  | error failure => cases hgives

theorem Sample.answered_rotated :
    ∃ first tokens, Sample.rotated.Answered 0 Sample.login (.ok first) ∧
      first.refresh = Sample.secret ∧
      Sample.rotated.Answered 2 (.refresh Sample.secret) (.ok tokens) := by
  have hgiven : (Sample.rotated.answer? 0 Sample.login).any (Sample.gives Sample.secret) = true ∧
      (Sample.rotated.answer? 2 (.refresh Sample.secret)).any
        (Sample.gives (Sample.supply.secrets 1)) = true := by decide +kernel
  rcases Sample.eq_ok_of_gives hgiven.left with ⟨first, hlogin, hsecret⟩
  rcases Sample.eq_ok_of_gives hgiven.right with ⟨tokens, hrefresh, _⟩
  exact ⟨first, tokens, answered_of_answer? hlogin, hsecret, answered_of_answer? hrefresh⟩

/-- A login and a refresh with its secret are a line. -/
theorem lines_coherent_rotated :
    Access.Issuer.assemble .epoch Sample.settings = .ok Sample.facade.issuer ∧
      Reachable Sample.facade Sample.rotated ∧ Sample.rotated.DistinctIds ∧
      (∀ n, .epoch ≤ Sample.rotated.world.supply.clock n) ∧
      ∃ first tokens, Descends Sample.rotated first 1 tokens ∧
        Inherits Sample.facade Sample.rotated first 1 tokens := by
  have ha : Access.Issuer.assemble .epoch Sample.settings = .ok Sample.facade.issuer := rfl
  have hs : Reachable Sample.facade Sample.rotated := Sample.reachable_run _
  have hd := Sample.distinctIds_rotated
  have hclock : ∀ n, .epoch ≤ Sample.rotated.world.supply.clock n := by
    intro n
    have hsupply : Sample.rotated.world.supply = Sample.supply :=
      Reaches.supply_eq (f := Sample.facade) (s := Sample.underway) ⟨_, rfl⟩
    rw [hsupply]
    exact Int.le_refl _
  rcases Sample.answered_rotated with ⟨first, tokens, hlogin, hsecret, hrefresh⟩
  rw [← hsecret] at hrefresh
  have hline := (Descends.login hlogin).refresh hrefresh
  rcases lines_coherent ha hs hd with ⟨_, _, _, hlines⟩
  exact ⟨ha, hs, hd, hclock, first, tokens, hline, hlines first 1 tokens hline⟩

end Service

end SessionAuth
