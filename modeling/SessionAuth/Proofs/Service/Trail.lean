import SessionAuth.Proofs.Service.Contents
import SessionAuth.Proofs.Service.Lineage
import SessionAuth.Proofs.Service.Reports

/-!
# The trail

Whoever reads the trail learns what each request has done: every decision is reported once, and
what an event says agrees with the result of its request and with what the request has done to the
store at the moment of its call, whatever others did in between.
-/

namespace SessionAuth

open Time Refresh

namespace Refresh.Table

/-- Some families are those, once each, in force in a table and withdrawn in a later one. -/
structure Closes (t u : Table) (families : List FamilyId) : Prop where
  nodup : families.Nodup
  closed : ∀ fam, fam ∈ families ↔
    (∃ g, t.families.get? fam = some g ∧ g.isRevoked = false) ∧
      ∃ g, u.families.get? fam = some g ∧ g.isRevoked = true

theorem Sweep.closes {t u : Table} {subject : SubjectId} {now : Instant} {reason : Reason}
    (h : Sweep t u subject now reason) : Closes t u (t.liveFamilies subject) where
  nodup := nodup_liveFamilies t subject
  closed := by
    intro fam
    rw [mem_liveFamilies]
    constructor
    · rintro ⟨g, hg, hsubject, hlive⟩
      refine ⟨⟨g, hg, hlive⟩, g.withdraw now, ?_, rfl⟩
      rw [h.families, hg, Option.map_some, if_pos hsubject]
    · rintro ⟨⟨g, hg, hlive⟩, g', hg', hrevoked⟩
      refine ⟨g, hg, ?_, hlive⟩
      by_contra hother
      rw [h.families, hg, Option.map_some, if_neg hother] at hg'
      cases hg'
      rw [hrevoked] at hlive
      cases hlive

end Refresh.Table

namespace Service

open SessionAuth.Flow

variable {f : Session.Facade}

/-! # Events of a task -/

def events (s : Service) (i : Nat) : List Audit.Event :=
  (s.past i).filterMap Turn.event?

def Reports (s : Service) (i : Nat) (kind : Audit.Kind) (subject : Option SubjectId)
    (outcome : Audit.Outcome) (context : List (String × JsonValue)) : Prop :=
  ∃ id t, s.events i = [⟨id, kind, subject, outcome, .object context, t⟩]

theorem Reports.kind_eq {s : Service} {i : Nat} {kind : Audit.Kind} {subject : Option SubjectId}
    {outcome : Audit.Outcome} {context : List (String × JsonValue)}
    (h : s.Reports i kind subject outcome context) {e : Audit.Event} (he : e ∈ s.events i) :
    e.kind = kind := by
  rcases h with ⟨id, t, hevents⟩
  rw [hevents] at he
  cases List.mem_singleton.mp he
  rfl

theorem Reports.exists_mem {s : Service} {i : Nat} {kind : Audit.Kind}
    {subject : Option SubjectId} {outcome : Audit.Outcome} {context : List (String × JsonValue)}
    (h : s.Reports i kind subject outcome context) : ∃ e ∈ s.events i, e.kind = kind := by
  rcases h with ⟨id, t, hevents⟩
  rw [hevents]
  exact ⟨_, List.mem_cons_self, rfl⟩

/-! # Deeds of a task -/

def HasFound (f : Session.Facade) (s : Service) (i : Nat) (p : Secret) (y : Option Record) : Prop :=
  ∃ u v, Moment f s i (found p y) u v ∧ u.tokens.findByHash p.hash = y

def HasEnded (f : Session.Facade) (s : Service) (i : Nat) (fam : FamilyId) (reason : Reason)
    (n : Nat) : Prop :=
  ∃ u v, Moment f s i (withdrew fam reason n) u v ∧ n = u.tokens.differing v.tokens

def HasSwept (f : Session.Facade) (s : Service) (i : Nat) (subject : SubjectId) (reason : Reason)
    (families : List FamilyId) : Prop :=
  ∃ u v, Moment f s i (swept subject reason families) u v ∧ u.tokens.Closes v.tokens families

def HasSought (f : Session.Facade) (s : Service) (i : Nat) (resource : ResourceId)
    (y : Option Resource) : Prop :=
  ∃ u v, Moment f s i (Turn.answered (.findResource resource) y) u v ∧
    u.world.store.shares.findResource resource = y

section Deeds

variable {s : Service} (hs : Reachable f s) {i : Nat}
include hs

theorem Reachable.hasFound {p : Secret} {y : Option Record} (h : found p y ∈ s.past i) :
    HasFound f s i p y := by
  rcases hs.performed_of_mem h with ⟨u, v, now, hmoment, hperform⟩
  exact ⟨u, v, hmoment, (Store.perform_findByHash hperform).symm⟩

theorem Reachable.hasSought {resource : ResourceId} {y : Option Resource}
    (h : Turn.answered (.findResource resource) y ∈ s.past i) : HasSought f s i resource y := by
  rcases hs.performed_of_mem h with ⟨u, v, now, hmoment, hperform⟩
  exact ⟨u, v, hmoment, (Store.perform_findResource hperform).symm⟩

variable (hd : s.DistinctIds)
include hd

theorem Reachable.hasEnded {fam : FamilyId} {reason : Reason} {n : Nat}
    (h : withdrew fam reason n ∈ s.past i) : HasEnded f s i fam reason n := by
  rcases hs.performed_of_mem h with ⟨u, v, now, hmoment, hperform⟩
  have hcoherent := (hmoment.before.invariant (hd.of_reaches hmoment.reaches)).coherent
  have hcount := hcoherent.revokeFamily_fst now fam reason
  rw [(Store.perform_revokeFamily hperform).left] at hcount
  exact ⟨u, v, hmoment, hcount⟩

theorem Reachable.hasSwept {subject : SubjectId} {reason : Reason} {families : List FamilyId}
    (h : swept subject reason families ∈ s.past i) : HasSwept f s i subject reason families := by
  rcases hs.moment_of_mem h with ⟨u, v, hmoment⟩
  rcases hmoment.sweep hd with ⟨now, hsweep, _, rfl⟩
  exact ⟨u, v, hmoment, hsweep.closes⟩

theorem Reachable.eq_none_of_filter {p : Secret} {y : Option Record} (h : found p y ∈ s.past i)
    (hnone : y.filter (fun r => r.belongsTo p) = none) : y = none := by
  cases y with
  | none => rfl
  | some r =>
      have hhash := ((hs.invariant hd).get?_of_found h).left
      rw [Option.filter_eq_none_iff] at hnone
      exact absurd (by simp [Record.belongsTo, hhash]) (hnone r rfl)

end Deeds

/-- The exchange of a record that was presented makes it the predecessor of a new one. -/
theorem Moment.succession {s u v : Service} (hd : s.DistinctIds) {i : Nat} {p : Secret}
    {q r : Record} (h : Moment f s i (exchanged q.id r .applied) u v)
    (hfound : found p (some q) ∈ u.past i) :
    ∃ q' now, q'.id = q.id ∧ u.tokens.findByHash p.hash = some q' ∧ q'.state = .active ∧
      Table.Succession u.tokens v.tokens q' r now := by
  have hu := h.before.invariant (hd.of_reaches h.reaches)
  -- What was read is an earlier state of the record in the table.
  rcases hu.get?_of_found hfound with ⟨hhash, q', hq', hqq'⟩
  have hid : q'.id = q.id := hu.coherent.keyed q.id q' hq'
  have hnew := hu.fresh_of_stores h.takes (Or.inr ⟨_, rfl⟩)
  have hpresented := hu.coherent.findByHash_of_get? hq'
  rw [hqq'.tokenHash, hhash] at hpresented
  rcases h.takes.perform with ⟨now, hperform⟩
  have hexchange := Table.transition_cases (Store.perform_transition hperform).left
  change u.world.store.tokens.records.get? q.id = some q' at hq'
  refine ⟨q', now, hid, hpresented, ?_⟩
  change q'.state = .active ∧ Table.Succession _ v.world.store.tokens q' r now
  generalize v.world.store.tokens = table at hexchange
  cases hexchange with
  | applied hrecord _ hstate hfamily =>
      rw [hrecord] at hq'
      cases hq'
      rw [← hid] at hrecord ⊢
      exact ⟨hstate, Table.succession hrecord hnew hfamily⟩

/-! # What is true of a request -/

/-- How a request that was answered is reported, by the result and by what it has done. -/
inductive Truthful (f : Session.Facade) (s : Service) (i : Nat) : (q : Request) → q.Reply →
    Prop where
  | loggedIn {identifier password : String} {tokens : Session.Tokens} {r : Record} {u v : Service}
      (hinsert : Moment f s i (opened r) u v) (hopens : Opens tokens r u.tokens v.tokens)
      (hreports : s.Reports i .loginSucceeded (some tokens.subject) .success
        [("family_id", .string tokens.family.text)]) :
      Truthful f s i (.login identifier password) (.ok tokens)
  | loginFailed {identifier password reason : String} {failure : Failure} {y : Option Subject}
      {u v : Service} (hread : Moment f s i (named identifier y) u v)
      (hfound : u.world.store.subjects.findByIdentifier identifier = y)
      (habsent : y.map Subject.id = none ↔ ∀ id x, u.account id = some x → x.isDeleted = false →
        x.matchesIdentifier identifier = false)
      (hdeclines : Declines password y failure reason)
      (hreports : s.Reports i .loginFailed (y.map Subject.id) .failure
        [("reason", .string reason)]) :
      Truthful f s i (.login identifier password) (.error failure)
  | refreshed {p : Secret} {tokens : Session.Tokens} {q r : Record} {now : Instant}
      {u v : Service} (hexchange : Moment f s i (exchanged q.id r .applied) u v)
      (hpresented : u.tokens.findByHash p.hash = some q) (hactive : q.state = .active)
      (hsuccession : Table.Succession u.tokens v.tokens q r now)
      (hsuccessor : r.tokenHash = tokens.refresh.hash ∧ r.family = tokens.family ∧
        r.subject = tokens.subject)
      (hreports : s.Reports i .tokenRefreshed (some tokens.subject) .success
        [("family_id", .string tokens.family.text), ("generation", .int r.generation),
          ("previous_record_id", .string q.id.text)]) :
      Truthful f s i (.refresh p) (.ok tokens)
  | reused {p : Secret} {r : Record} {n : Nat} (hread : HasFound f s i p (some r))
      (hended : HasEnded f s i r.family .reuseDetected n)
      (hreports : s.Reports i .refreshReuseDetected (some r.subject) .failure
        [("family_id", .string r.family.text), ("revoked_records", .int n)]) :
      Truthful f s i (.refresh p) (.error .reuseDetected)
  | refreshRejected {p : Secret} {y : Option Record} {j : Session.Rejection} {failure : Failure}
      (hread : HasFound f s i p y) (hfailure : failure = j.failure)
      (hother : failure ≠ .reuseDetected)
      (hnames : j = .unknown ∨
        ∃ r, y = some r ∧ j.subject? = some r.subject ∧ j.family? = some r.family)
      (hreports : s.Reports i .refreshRejected j.subject? .failure
        [("family_id", .optionalString (j.family?.map Id.text)), ("reason", .string j.code)]) :
      Truthful f s i (.refresh p) (.error failure)
  | loggedOut {p : Secret} {r : Record} {n : Nat} (hread : HasFound f s i p (some r))
      (hended : HasEnded f s i r.family .logout n)
      (hreports : s.Reports i .sessionLoggedOut (some r.subject) .success
        [("family_id", .string r.family.text), ("revoked_records", .int n)]) :
      Truthful f s i (.logout p) ()
  | logoutUnknown {p : Secret} (hread : HasFound f s i p none) (hsilent : s.events i = []) :
      Truthful f s i (.logout p) ()
  | passwordChanged {subject : SubjectId} {current new : String} {before after : List FamilyId}
      (hbefore : HasSwept f s i subject .passwordChange before)
      (hafter : HasSwept f s i subject .passwordChange after) (hdistinct : (before ++ after).Nodup)
      (hreports : s.Reports i .passwordChanged (some subject) .success
        [("revoked_families", .int (before.length + after.length : Nat))]) :
      Truthful f s i (.changePassword subject current new) (.ok ())
  | passwordChangeFailed {subject : SubjectId} {current new : String} {failure : Failure}
      (hreports : s.Reports i .passwordChangeFailed (some subject) .failure
        [("reason", .string failure.code)]) :
      Truthful f s i (.changePassword subject current new) (.error failure)
  | sessionsRevoked {subject : SubjectId} {n : Nat} {families : List FamilyId}
      (hswept : HasSwept f s i subject .subjectRevoked families) (hcount : n = families.length)
      (hreports : s.Reports i .sessionsRevoked (some subject) .success
        [("revoked_families", .int families.length)]) :
      Truthful f s i (.revokeAll subject) n
  | decided {q : Request} {subject : SubjectId} {resource : ResourceId} {required : Level}
      {answer : Permission.Decision → q.Reply} {d : Permission.Decision} {reason : Option String}
      {y : Option Resource} (hposes : q.Poses subject resource required answer)
      (hsought : HasSought f s i resource y)
      (hreason : reason = none ↔ ∃ r, y = some r ∧ r.isDeleted = false)
      (hmissing : ∀ text, reason = some text → text = "resource_not_found" ∧ d = .denied none)
      (hreports : s.Reports i (Permission.eventOf d).1 (some subject) (Permission.eventOf d).2.1
        (contextOf resource required d reason)) :
      Truthful f s i q (answer d)
  | unheard {q : Request} {a : q.Reply} (hunheard : q.Unheard) (hsilent : s.events i = []) :
      Truthful f s i q a

section Requests

variable {s : Service} (hs : Reachable f s) (hd : s.DistinctIds) {i : Nat}
include hs

theorem Reachable.reports {q : Request} {a : q.Reply} (h : s.Answered i q a) {kind : Audit.Kind}
    {subject : Option SubjectId} {outcome : Audit.Outcome} {context : List (String × JsonValue)}
    (hreported : Reported (s.past i) kind subject outcome context) :
    s.Reports i kind subject outcome context :=
  Definite.filterMap_event? (q.definite f) (hs.yields h) hreported

theorem Reachable.truthful_of_poses {q : Request} {a : q.Reply} {subject : SubjectId}
    {resource : ResourceId} {required : Level} {answer : Permission.Decision → q.Reply}
    (hposes : q.Poses subject resource required answer) (h : s.Answered i q a) :
    Truthful f s i q a := by
  rcases hposes.exists_yields (hs.yields h) with ⟨d, hyields, rfl⟩
  rcases reported_of_decide hyields with ⟨reason, hgrounds, hreported⟩
  have hreports := hs.reports h hreported
  cases hgrounds with
  | missing hread hmissing =>
      refine Truthful.decided hposes (hs.hasSought hread) ?_ ?_ hreports
      · constructor
        · rintro ⟨⟩
        · rintro ⟨r, rfl, hpresent⟩
          simp [hpresent] at hmissing
      · rintro text ⟨⟩
        exact ⟨rfl, rfl⟩
  | present hread hpresent =>
      refine Truthful.decided hposes (hs.hasSought hread) ?_ ?_ hreports
      · rcases Option.filter_eq_some_iff.mp hpresent with ⟨rfl, hlive⟩
        exact ⟨fun _ => ⟨_, rfl, by simpa using hlive⟩, fun _ => rfl⟩
      · rintro text ⟨⟩

theorem Reachable.truthful_of_unheard {q : Request} {a : q.Reply} (hunheard : q.Unheard)
    (h : s.Answered i q a) : Truthful f s i q a :=
  Truthful.unheard hunheard (Silent.filterMap_event? (hunheard.silent f) (hs.yields h))

include hd

theorem Reachable.truthful_login {identifier password : String}
    {a : Except Failure Session.Tokens} (h : s.Answered i (.login identifier password) a) :
    Truthful f s i (.login identifier password) a := by
  have hverify : ∀ stored v, ⟨.verify password stored, v⟩ ∈ s.past i →
      Password.verify password stored = v := fun _ _ hmem => hs.verify_of_verified hmem
  cases reportsLogin_of_yields hverify (hs.yields h) with
  | opened hopened hmakes hreported =>
      rcases hs.moment_of_mem hopened with ⟨u, v, hmoment⟩
      exact Truthful.loggedIn hmoment (hmoment.opens hd hmakes) (hs.reports h hreported)
  | declined hread hdeclines hreported =>
      rcases hs.moment_of_mem hread with ⟨u, v, hmoment⟩
      have hfound := hmoment.found_of_named
      refine Truthful.loginFailed hmoment hfound ?_ hdeclines (hs.reports h hreported)
      rw [Option.map_eq_none_iff, ← hfound]
      exact Directory.findByIdentifier_eq_none

theorem Reachable.truthful_refresh {p : Secret} {a : Except Failure Session.Tokens}
    (h : s.Answered i (.refresh p) a) : Truthful f s i (.refresh p) a := by
  cases a with
  | ok tokens =>
      rcases yields_refresh (hs.yields h) with ⟨q, x, r, hrenews, hreported⟩
      rcases hrenews.makes with ⟨generation, _, hmakes⟩
      rcases hmakes.record with ⟨_, hfamily, hsubject, hhash, _⟩
      -- The exchange is the last of the calls, so that the record was read before it.
      have hstored : Turn.calls (s.past i) = [found p (some q), knows q.subject (some x)] ++
          exchanged q.id r .applied :: [] := hrenews.calls
      rcases hs.last hstored (by simp) with ⟨u, v, hlast, hcalls⟩
      have hpresented : found p (some q) ∈ u.past i := Turn.mem_of_calls hcalls (by simp)
      rcases hlast.moment.succession hd hpresented with
        ⟨q', now, hid, hfound, hactive, hsuccession⟩
      have hmoment := hlast.moment
      have hreports := hs.reports h hreported
      rw [← hid] at hmoment hreports
      exact Truthful.refreshed hmoment hfound hactive hsuccession ⟨hhash, hfamily, hsubject⟩
        hreports
  | error failure =>
      cases reportsRefusal_of_yields (hs.yields h) with
      | reused hread hwithdrawal hreported =>
          exact Truthful.reused (hs.hasFound hread) (hs.hasEnded hd hwithdrawal)
            (hs.reports h hreported)
      | rejected hread hother hnames hreported =>
          exact Truthful.refreshRejected (hs.hasFound hread) rfl hother hnames
            (hs.reports h hreported)

theorem Reachable.truthful_logout {p : Secret} {a : Unit} (h : s.Answered i (.logout p) a) :
    Truthful f s i (.logout p) a := by
  cases reportsLogout_of_yields (hs.yields h) with
  | ended hread hwithdrawal hreported =>
      exact Truthful.loggedOut (hs.hasFound hread) (hs.hasEnded hd hwithdrawal)
        (hs.reports h hreported)
  | unknown hread hnone hsilent =>
      cases hs.eq_none_of_filter hd hread hnone
      exact Truthful.logoutUnknown (hs.hasFound hread) hsilent

theorem Reachable.truthful_changePassword {subject : SubjectId} {current new : String}
    {a : Except Failure Unit} (h : s.Answered i (.changePassword subject current new) a) :
    Truthful f s i (.changePassword subject current new) a := by
  cases a with
  | ok a =>
      rcases yields_changePassword (hs.yields h) with ⟨_, _, _, _, _, _, _, _, _, hpast⟩
      rcases reported_of_replacing hpast with ⟨hbefore, hafter, hreported⟩
      exact Truthful.passwordChanged (hs.hasSwept hd hbefore) (hs.hasSwept hd hafter)
        (hs.nodup_of_replacing hd hpast) (hs.reports h hreported)
  | error failure =>
      have hreported := reported_of_changePassword_refused (hs.yields h)
      exact Truthful.passwordChangeFailed (hs.reports h hreported)

theorem Reachable.truthful {q : Request} {a : q.Reply} (h : s.Answered i q a) :
    Truthful f s i q a := by
  cases q with
  | login identifier password => exact hs.truthful_login hd h
  | refresh p => exact hs.truthful_refresh hd h
  | logout p => exact hs.truthful_logout hd h
  | changePassword subject current new => exact hs.truthful_changePassword hd h
  | revokeAll subject =>
      rcases reported_of_revokeAll (hs.yields h) with ⟨families, hcount, hswept, hreported⟩
      exact Truthful.sessionsRevoked (hs.hasSwept hd hswept) hcount (hs.reports h hreported)
  | listSessions subject => exact hs.truthful_of_unheard .listSessions h
  | authenticate token => exact hs.truthful_of_unheard .authenticate h
  | effectiveLevel subject resource => exact hs.truthful_of_unheard .effectiveLevel h
  | decide subject resource required => exact hs.truthful_of_poses .decide h
  | authorize subject resource required => exact hs.truthful_of_poses .authorize h
  | require subject resource required => exact hs.truthful_of_poses .require h
  | manageGrants subject resource => exact hs.truthful_of_poses .manageGrants h

end Requests

theorem Truthful.reuse_iff {s : Service} {i : Nat} {p : Secret}
    {a : Except Failure Session.Tokens} (h : Truthful f s i (.refresh p) a) :
    (∃ e ∈ s.events i, e.kind = .refreshReuseDetected) ↔ a = .error .reuseDetected := by
  cases h with
  | refreshed _ _ _ _ _ hreports =>
      constructor
      · rintro ⟨e, he, hkind⟩
        cases (hreports.kind_eq he).symm.trans hkind
      · rintro ⟨⟩
  | reused _ _ hreports => exact ⟨fun _ => rfl, fun _ => hreports.exists_mem⟩
  | refreshRejected _ _ hother _ hreports =>
      constructor
      · rintro ⟨e, he, hkind⟩
        cases (hreports.kind_eq he).symm.trans hkind
      · rintro ⟨⟩
        exact absurd rfl hother
  | decided hposes => cases hposes
  | unheard hunheard => cases hunheard

/-! # Every state -/

/-- In every state, a request that has been answered has reported once what it has done, or not at
all where nothing is to be reported, and a request that has halted has reported nothing.  A refresh
has reported reuse exactly if it is what it was refused for.  The trail consists of the events of
the requests, in the order of the turns. -/
theorem reported_truthfully {s : Service} (hs : Reachable f s) (hd : s.DistinctIds) :
    (∀ (i : Nat) (q : Request) (a : q.Reply), s.Answered i q a → Truthful f s i q a) ∧
    (∀ (i : Nat) (p : Secret) (a : Except Failure Session.Tokens), s.Answered i (.refresh p) a →
      ((∃ e ∈ s.events i, e.kind = .refreshReuseDetected) ↔ a = .error .reuseDetected)) ∧
    (∀ (i : Nat) (q : Request) (h : Halt), s.tasks[i]? = some ⟨q, .halt h⟩ → s.events i = []) ∧
    ∃ w, Fresh w ∧ Reaches f (idle w) s ∧
      s.world.trail = w.trail ++ s.history.filterMap (fun e => e.turn.event?) := by
  refine ⟨?_, ?_, ?_, ?_⟩
  · intro i q a h
    exact hs.truthful hd h
  · intro i p a h
    exact (hs.truthful hd h).reuse_iff
  · intro i q h htask
    exact Definite.filterMap_event?_of_halts (q.definite f) (hs.halts htask)
  · rcases hs with ⟨w, hw, hrun⟩
    rcases hrun.trail_eq with ⟨new, hist, htrail⟩
    have hall : s.history = new := hist
    rw [hall]
    exact ⟨w, hw, hrun, htrail⟩

/-- A login and a refresh with its secret leave one event each. -/
theorem reported_truthfully_rotated :
    Reachable Sample.facade Sample.rotated ∧ Sample.rotated.DistinctIds ∧
      ∃ first tokens, Sample.rotated.Answered 0 Sample.login (.ok first) ∧
        Sample.rotated.Answered 2 (.refresh Sample.secret) (.ok tokens) ∧
        Truthful Sample.facade Sample.rotated 0 Sample.login (.ok first) ∧
        Truthful Sample.facade Sample.rotated 2 (.refresh Sample.secret) (.ok tokens) := by
  have hs : Reachable Sample.facade Sample.rotated := Sample.reachable_run _
  have hd := Sample.distinctIds_rotated
  rcases Sample.answered_rotated with ⟨first, tokens, hlogin, _, hrefresh⟩
  rcases reported_truthfully hs hd with ⟨htruthful, _⟩
  exact ⟨hs, hd, first, tokens, hlogin, hrefresh, htruthful 0 _ _ hlogin, htruthful 2 _ _ hrefresh⟩

end Service

end SessionAuth
