import SessionAuth.Proofs.Refresh.Effects
import SessionAuth.Proofs.Service.Accounts
import SessionAuth.Proofs.Service.PasswordChange

/-!
# What a change of a password does

A change of a password that is refused only reads.  One that succeeds withdraws the families of
its subject twice and stores the new hash in between.  Whatever else is in flight, each of these
turns does its part to the store and nothing else does, so that no family of the subject outlives
the second withdrawal, and none is counted twice.
-/

namespace SessionAuth

open Time Refresh

namespace Service

variable {f : Session.Facade} {subject : SubjectId} {current new : String}

/-! # The turns of a change -/

section Turns

open SessionAuth.Flow

variable {turns : List Turn}

theorem yields_rejectChange {failure : Failure} {a : Except Failure Unit}
    (h : (Session.Facade.rejectChange subject failure).Yields turns a) :
    a = .error failure ∧ ∃ id t, turns = [⟨.notice (.passwordChangeRejected subject failure), ()⟩,
      ⟨.freshId, id.uuid⟩, ⟨.clock, t⟩, ⟨.audit ⟨id, .passwordChangeFailed, some subject, .failure,
        .object [("reason", .string failure.code)], t⟩, ()⟩] := by
  unfold Session.Facade.rejectChange at h
  rcases yields_note_bind.mp h with ⟨_, rfl, hrest⟩
  rcases yields_bind.mp hrest with ⟨_, _, _, rfl, hreport, rfl, rfl⟩
  rcases yields_report.mp hreport with ⟨id, t, rfl⟩
  exact ⟨rfl, id, t, rfl⟩

theorem yields_revokeSubject {reason : Reason} {families : List FamilyId} :
    (Session.revokeSubject subject reason).Yields turns families ↔
      turns = [swept subject reason families,
        ⟨.notice (.subjectFamiliesRevoked subject families.length reason), ()⟩] := by
  unfold Session.revokeSubject
  rw [yields_call_bind]
  constructor
  · intro h
    rcases h with ⟨_, _, rfl, hnote⟩
    rcases yields_note_bind.mp hnote with ⟨_, rfl, rfl, rfl⟩
    rfl
  · rintro rfl
    exact ⟨families, _, rfl, yields_note_bind.mpr ⟨[], rfl, rfl, rfl⟩⟩

/-- The event of a change of a password that has withdrawn some families. -/
def changedEvent (subject : SubjectId) (families : Nat) (id : Id .event) (t : Instant) :
    Audit.Event :=
  ⟨id, .passwordChanged, some subject, .success, .object [("revoked_families", .int families)], t⟩

def replacing (f : Session.Facade) (subject : SubjectId) (new : String) (salt : Password.Salt)
    (before after : List FamilyId) (id : Id .event) (t : Instant) : List Turn :=
  [⟨.freshSalt, salt⟩, swept subject .passwordChange before,
    ⟨.notice (.subjectFamiliesRevoked subject before.length .passwordChange), ()⟩,
    marked subject (Password.hash f.cost salt new).text, swept subject .passwordChange after,
    ⟨.notice (.subjectFamiliesRevoked subject after.length .passwordChange), ()⟩,
    ⟨.notice (.passwordChanged subject (before.length + after.length)), ()⟩,
    ⟨.freshId, id.uuid⟩, ⟨.clock, t⟩,
    ⟨.audit (changedEvent subject (before.length + after.length) id t), ()⟩]

theorem yields_replacePassword {a : Except Failure Unit}
    (h : (f.replacePassword subject new).Yields turns a) :
    a = .ok () ∧ ∃ salt before after id t,
      turns = replacing f subject new salt before after id t := by
  unfold Session.Facade.replacePassword at h
  rcases yields_perform_bind.mp h with ⟨salt, _, rfl, hsweep⟩
  rcases yields_bind.mp hsweep with ⟨before, _, _, rfl, hbefore, hmark⟩
  rcases yields_call_bind.mp hmark with ⟨_, _, rfl, hsweep'⟩
  rcases yields_bind.mp hsweep' with ⟨after, _, _, rfl, hafter, hnote⟩
  rcases yields_note_bind.mp hnote with ⟨_, rfl, hevent⟩
  rcases yields_bind.mp hevent with ⟨_, _, _, rfl, hreport, rfl, rfl⟩
  rcases yields_report.mp hreport with ⟨id, t, rfl⟩
  rw [yields_revokeSubject.mp hbefore, yields_revokeSubject.mp hafter]
  exact ⟨rfl, salt, before, after, id, t, rfl⟩

/-- How a change of a password goes on that has looked for its subject. -/
inductive Weighs (f : Session.Facade) (subject : SubjectId) (current new : String)
    (turns : List Turn) (a : Except Failure Unit) : Prop where
  | unknown {rest : List Turn} (hturns : turns = knows subject none :: rest)
      (hrest : (Session.Facade.rejectChange subject .invalidCredential).Yields rest a) :
      Weighs f subject current new turns a
  | mismatched {x : Subject} {v : Password.Verification} {rest : List Turn}
      (hturns : turns =
        knows subject (some x) :: ⟨.verify current x.passwordHash, v⟩ :: rest)
      (hdiffers : v ≠ .same)
      (hrest : (Session.Facade.rejectChange subject .invalidCredential).Yields rest a) :
      Weighs f subject current new turns a
  | barred {x : Subject} {rest : List Turn}
      (hturns : turns = knows subject (some x) :: verified current x.passwordHash :: rest)
      (hunusable : x.isUsable = false)
      (hrest : (Session.Facade.rejectChange subject .accountInactive).Yields rest a) :
      Weighs f subject current new turns a
  | unfit {x : Subject} {v : Password.Violation} {rest : List Turn}
      (hturns : turns = knows subject (some x) :: verified current x.passwordHash :: rest)
      (husable : x.isUsable = true)
      (hrest : (Session.Facade.rejectChange subject (.policyViolation v)).Yields rest a) :
      Weighs f subject current new turns a
  | fit {x : Subject} {rest : List Turn}
      (hturns : turns = knows subject (some x) :: verified current x.passwordHash :: rest)
      (husable : x.isUsable = true) (hother : current ≠ new)
      (hvalid : f.policy.validate new = .ok ())
      (hrest : (f.replacePassword subject new).Yields rest a) :
      Weighs f subject current new turns a

theorem weighs_of_yields {a : Except Failure Unit}
    (h : (f.changePassword subject current new).Yields turns a) :
    Weighs f subject current new turns a := by
  unfold Session.Facade.changePassword at h
  rcases yields_call_bind.mp h with ⟨y, _, rfl, hfound⟩
  cases y with
  | none => exact Weighs.unknown rfl hfound
  | some x =>
      rcases yields_perform_bind.mp hfound with ⟨v, _, rfl, hchecks⟩
      split at hchecks
      case isTrue hdiffers =>
          refine Weighs.mismatched rfl ?_ hchecks
          rintro rfl
          cases hdiffers
      case isFalse haccepts =>
          simp only [Password.Verification.accepts, Bool.not_eq_true, Bool.not_eq_false',
            beq_iff_eq] at haccepts
          subst haccepts
          split at hchecks
          case isTrue hbarred => exact Weighs.barred rfl (by simpa using hbarred) hchecks
          case isFalse husable =>
              have husable : x.isUsable = true := by simpa using husable
              split at hchecks
              case isTrue => exact Weighs.unfit rfl husable hchecks
              case isFalse hother =>
                  split at hchecks
                  case h_1 => exact Weighs.unfit rfl husable hchecks
                  case h_2 hvalid => exact Weighs.fit rfl husable hother hvalid hchecks

/-- A change of a password that succeeds has checked all that there is to check. -/
theorem yields_changePassword (h : (f.changePassword subject current new).Yields turns (.ok ())) :
    ∃ x salt before after id t, x.isUsable = true ∧ current ≠ new ∧
      f.policy.validate new = .ok () ∧
      turns = knows subject (some x) :: verified current x.passwordHash ::
        replacing f subject new salt before after id t := by
  cases weighs_of_yields h with
  | unknown _ hrest => cases (yields_rejectChange hrest).left
  | mismatched _ _ hrest => cases (yields_rejectChange hrest).left
  | barred _ _ hrest => cases (yields_rejectChange hrest).left
  | unfit _ _ hrest => cases (yields_rejectChange hrest).left
  | fit hturns husable hother hvalid hrest =>
      rcases yields_replacePassword hrest with ⟨_, salt, before, after, id, t, rfl⟩
      exact ⟨_, salt, before, after, id, t, husable, hother, hvalid, hturns⟩

end Turns

/-! # What the turns do to the store -/

/-- What a turn of a change may do to the store: nothing unless it writes, or it withdraws all
families of the subject, or it gives the subject its new hash. -/
inductive Replaces (subject : SubjectId) (hash : String) (s u : Store) : Turn → Prop where
  | read {turn : Turn}
      (hreads : ∀ c (a : c.Reply), turn = Turn.answered c a → reads c = true) (hstore : u = s) :
      Replaces subject hash s u turn
  | sweep {families : List FamilyId} {now : Instant}
      (htokens : s.tokens.Sweep u.tokens subject now .passwordChange)
      (hsubjects : u.subjects = s.subjects) (hshares : u.shares = s.shares) :
      Replaces subject hash s u (swept subject .passwordChange families)
  | mark {now : Instant}
      (hsubjects : ∀ k, u.subjects.get? k = (s.subjects.get? k).map (fun x =>
        if k = subject then { x with passwordHash := hash, passwordChangedAt := some now } else x))
      (htokens : u.tokens = s.tokens) (hshares : u.shares = s.shares) :
      Replaces subject hash s u (marked subject hash)

/-- What a withdrawal of all families of a subject has done by some later state: every family that
the subject had is withdrawn with all its records, those that were withdrawn then say for which
reason, and the families that it has given are those that were in force. -/
structure Ended (s : Service) (subject : SubjectId) (families : List FamilyId) (u v : Service) :
    Prop where
  withdrawn : ∀ fam g, u.tokens.families.get? fam = some g → g.subject = subject →
    s.Withdrawn fam ∧
      ∀ id r, s.tokens.records.get? id = some r → r.family = fam → r.state = .revoked
  reason : ∀ id q r, u.tokens.records.get? id = some q → q.state ≠ .revoked →
    v.tokens.records.get? id = some r → r.state = .revoked →
    r.reason = some .passwordChange ∧ s.tokens.records.get? id = some r
  counted : ∀ fam, fam ∈ families ↔
    ∃ g, u.tokens.families.get? fam = some g ∧ g.subject = subject ∧ g.isRevoked = false

section Effects

variable {s u v : Service} {c : Nat} {families : List FamilyId} {reason : Reason} {hash : String}
  (hd : s.DistinctIds)
include hd

theorem Moment.sweep (h : Moment f s c (swept subject reason families) u v) :
    ∃ now, u.tokens.Sweep v.tokens subject now reason ∧
      v.world.store.subjects = u.world.store.subjects ∧
      families = u.tokens.liveFamilies subject := by
  rcases h.takes.perform with ⟨now, hperform⟩
  rcases Store.perform_revokeSubjectFamilies hperform with ⟨htable, hsubjects⟩
  have hcoherent := (h.before.invariant (hd.of_reaches h.reaches)).coherent
  have hsweep := hcoherent.sweep now subject reason
  rw [htable] at hsweep
  refine ⟨now, hsweep, hsubjects, ?_⟩
  exact (congrArg Prod.fst htable).symm

theorem Moment.ended (h : Moment f s c (swept subject .passwordChange families) u v) :
    Ended s subject families u v := by
  rcases h.sweep hd with ⟨now, hsweep, _, hfamilies⟩
  have hv := h.reachable_after
  constructor
  · intro fam g hg hsubject
    have hwithdrawn : v.Withdrawn fam := by
      refine ⟨g.withdraw now, ?_, rfl⟩
      rw [hsweep.families, hg, Option.map_some, if_pos hsubject]
    have hlater := hwithdrawn.later hv h.after hd
    refine ⟨hlater, ?_⟩
    intro id r hr hfamily
    exact (h.reachable.invariant hd).revoked_of_withdrawn hlater hr hfamily
  · intro id q r hq hstate hr hrevoked
    have hlater := (hv.evolves h.after hd).get?_of_revoked hr hrevoked
    refine ⟨?_, hlater⟩
    rw [hsweep.records, hq, Option.map_some] at hr
    split at hr
    · cases hr
      rw [Record.revoke_of_not_revoked hstate]
    · cases hr
      exact absurd hrevoked hstate
  · intro fam
    rw [hfamilies]
    exact Table.mem_liveFamilies fam

theorem disjoint_of_swept {u' v' : Service} {families' : List FamilyId}
    (h : Moment f s c (swept subject reason families) u v)
    (h' : Moment f s c (swept subject reason families') u' v') (hbetween : Reaches f v u')
    {fam : FamilyId} (hmem : fam ∈ families) : fam ∉ families' := by
  intro hmem'
  rcases h.sweep hd with ⟨now, hsweep, _, rfl⟩
  rcases h'.sweep hd with ⟨_, _, _, rfl⟩
  rcases (Table.mem_liveFamilies fam).mp hmem with ⟨g, hg, hsubject, _⟩
  have hwithdrawn : v.Withdrawn fam := by
    refine ⟨g.withdraw now, ?_, rfl⟩
    rw [hsweep.families, hg, Option.map_some, if_pos hsubject]
  rcases hwithdrawn.later h.reachable_after hbetween (hd.of_reaches h'.reaches) with
    ⟨g₁, hg₁, hrevoked⟩
  rcases (Table.mem_liveFamilies fam).mp hmem' with ⟨g₂, hg₂, _, hlive⟩
  rw [hg₁] at hg₂
  cases hg₂
  rw [hrevoked] at hlive
  cases hlive

/-- No family is counted twice by a change of a password. -/
theorem Reachable.nodup_of_replacing (hs : Reachable f s) {x : Subject} {salt : Password.Salt}
    {before after : List FamilyId} {id : Id .event} {t : Instant}
    (hpast : s.past c = knows subject (some x) :: verified current x.passwordHash ::
      replacing f subject new salt before after id t) : (before ++ after).Nodup := by
  -- The first withdrawal is over before the second one is made.
  have hfirst : s.past c = [knows subject (some x), verified current x.passwordHash,
      ⟨.freshSalt, salt⟩] ++ swept subject .passwordChange before ::
      (replacing f subject new salt before after id t).drop 2 := hpast
  have hsecond : s.past c = [knows subject (some x), verified current x.passwordHash,
      ⟨.freshSalt, salt⟩] ++ swept subject .passwordChange before ::
      ((replacing f subject new salt before after id t).drop 2).take 2 ++
      swept subject .passwordChange after ::
      (replacing f subject new salt before after id t).drop 5 := hpast
  rcases hs.moment hfirst with ⟨u₁, v₁, hswept₁, hu₁⟩
  rcases hswept₁.next hu₁ hsecond with ⟨u₂, v₂, hswept₂, _, hbetween⟩
  rw [List.nodup_append]
  refine ⟨?_, ?_, ?_⟩
  · rcases hswept₁.sweep hd with ⟨_, _, _, rfl⟩
    exact Table.nodup_liveFamilies _ _
  · rcases hswept₂.sweep hd with ⟨_, _, _, rfl⟩
    exact Table.nodup_liveFamilies _ _
  · rintro fam hfam fam' hfam' rfl
    exact disjoint_of_swept hd hswept₁ hswept₂ hbetween hfam hfam'

omit hd in
theorem Moment.mark (h : Moment f s c (marked subject hash) u v) :
    ∃ now, (∃ x, u.account subject = some x) ∧
      (∀ k, v.account k = (u.account k).map (fun x =>
        if k = subject then { x with passwordHash := hash, passwordChangedAt := some now }
        else x)) ∧
      v.tokens = u.tokens := by
  rcases h.takes.perform with ⟨now, hperform⟩
  rcases Store.perform_markPasswordChanged hperform with ⟨htokens, hmark⟩
  unfold Directory.markPasswordChanged at hmark
  split at hmark
  case isFalse => cases hmark
  case isTrue hcontains =>
      refine ⟨now, Option.isSome_iff_exists.mp hcontains, ?_, htokens⟩
      intro k
      unfold account
      rw [← Except.ok.inj hmark, Registry.get?_modify]
      by_cases hk : k = subject
      · simp [hk]
      · simp [hk]

omit hd in
theorem Moment.hasPassword (h : Moment f s c (marked subject hash) u v) :
    v.HasPassword subject hash := by
  rcases h.mark with ⟨now, ⟨x, hx⟩, haccounts, _⟩
  refine ⟨{ x with passwordHash := hash, passwordChangedAt := some now }, ?_, rfl⟩
  rw [haccounts, hx, Option.map_some, if_pos rfl]

omit hd in
theorem Moment.shares_eq {call : Store.Call} {a : call.Reply}
    (h : Moment f s c (Turn.answered call a) u v) :
    v.world.store.shares = u.world.store.shares := by
  rcases h.takes.perform with ⟨now, hperform⟩
  exact Store.shares_perform hperform

theorem replaces_of_moment {x : Subject} {before after : List FamilyId}
    (hcalls : Turn.calls (s.past c) =
      [knows subject (some x), swept subject .passwordChange before, marked subject hash,
        swept subject .passwordChange after])
    {turn : Turn} (h : Moment f s c turn u v) :
    Replaces subject hash u.world.store v.world.store turn := by
  have hsweep : ∀ families, Moment f s c (swept subject .passwordChange families) u v →
      Replaces subject hash u.world.store v.world.store
        (swept subject .passwordChange families) := by
    intro families hswept
    rcases hswept.sweep hd with ⟨now, htokens, hsubjects, _⟩
    exact Replaces.sweep htokens hsubjects hswept.shares_eq
  by_cases hreads : ∀ c (a : c.Reply), turn = Turn.answered c a → reads c = true
  · exact Replaces.read hreads (h.takes.store_eq hreads)
  · push Not at hreads
    rcases hreads with ⟨call, a, hturn, hwrites⟩
    have hmem : turn ∈ Turn.calls (s.past c) := by
      have hpast := h.mem_past
      rw [hturn] at hpast ⊢
      exact Turn.mem_calls_store.mpr hpast
    rw [hcalls] at hmem
    simp only [List.mem_cons, List.not_mem_nil, or_false] at hmem
    rcases hmem with rfl | rfl | rfl | rfl
    · injection hturn with hcall _
      injection hcall with hcall
      rw [← hcall] at hwrites
      exact absurd rfl hwrites
    · exact hsweep before h
    · rcases h.mark with ⟨now, _, haccounts, htokens⟩
      exact Replaces.mark haccounts htokens h.shares_eq
    · exact hsweep after h

end Effects

/-! # Every run -/

/-- What a change of a password that succeeds has found out about its subject. -/
structure Entitled (f : Session.Facade) (x : Subject) (subject : SubjectId)
    (current new : String) : Prop where
  id : x.id = subject
  present : x.isDeleted = false
  usable : x.isUsable = true
  verified : Password.verify current x.passwordHash = .same
  other : current ≠ new
  valid : f.policy.validate new = .ok ()

structure Replaced (f : Session.Facade) (s : Service) (c : Nat) (subject : SubjectId)
    (current new : String) (x : Subject) (hash : String) (before after : List FamilyId) :
    Prop where
  entitled : Entitled f x subject current new
  verifies : Password.verify new hash = .same
  calls : Turn.calls (s.past c) =
    [knows subject (some x), swept subject .passwordChange before, marked subject hash,
      swept subject .passwordChange after]
  moments : ∀ turn ∈ s.past c, ∃ u v, Moment f s c turn u v
  read : ∀ u v, Moment f s c (knows subject (some x)) u v → u.account subject = some x
  effects : ∀ turn u v, Moment f s c turn u v →
    Replaces subject hash u.world.store v.world.store turn
  stored : ∀ u v, Moment f s c (marked subject hash) u v → v.HasPassword subject hash ∧
    ∀ actions later, v.run f actions = s → s.history = v.history ++ later →
      (∀ y, .operate (.enroll y) ∈ actions → y.id ≠ subject) →
      (∀ e ∈ later, ∀ other, e.turn ≠ marked subject other) → s.HasPassword subject hash
  ended : ∀ families u v, Moment f s c (swept subject .passwordChange families) u v →
    Ended s subject families u v
  distinct : (before ++ after).Nodup
  reported : ∃ id t,
    (s.past c).filterMap Turn.event? = [changedEvent subject (before ++ after).length id t] ∧
      changedEvent subject (before ++ after).length id t ∈ s.world.trail

/-- The salts that are drawn have sixteen octets, and the cost of hashing is one that is accepted,
with parameters of 32 bits.  Then a change of a password that is answered has been refused without
a change of the store, or it has checked all that there is to check and has done all that a change
of a password is to do, whatever requests were in flight at the same time. -/
theorem replaced_or_untouched {s : Service} (hs : Reachable f s) (hd : s.DistinctIds)
    (hcost : f.cost.check = .ok ()) (hmemory : f.cost.memory < Encoding.size32)
    (hpasses : f.cost.passes < Encoding.size32)
    (hsalts : ∀ n, (s.world.supply.salts n).octets.length = 16) {c : Nat} {subject : SubjectId}
    {current new : String} {a : Except Failure Unit}
    (hc : s.Answered c (.changePassword subject current new) a) :
    (a = .ok () ∧
      ∃ x hash before after, Replaced f s c subject current new x hash before after) ∨
    ((∃ failure, a = .error failure) ∧
      ∀ turn u v, Moment f s c turn u v → v.world.store = u.world.store) := by
  have hinv := hs.invariant hd
  cases a with
  | error failure =>
      right
      refine ⟨⟨failure, rfl⟩, ?_⟩
      have hends : Changes f subject current new (s.past c) (.error failure) := hc.ends hinv
      generalize hresult : (Except.error failure : Except Failure Unit) = result at hends
      cases hends with
      | changed hcalls hverified husable hsalt => cases hresult
      | refused hcalls =>
          intro turn u v hmoment
          exact hmoment.store_eq hcalls rfl
  | ok answer =>
      left
      refine ⟨rfl, ?_⟩
      rcases yields_changePassword (hs.yields hc) with
        ⟨x, salt, before, after, id, t, husable, hother, hvalid, hpast⟩
      have hcalls : Turn.calls (s.past c) =
          [knows subject (some x), swept subject .passwordChange before,
            marked subject (Password.hash f.cost salt new).text,
            swept subject .passwordChange after] := by
        rw [hpast]
        rfl
      have hread : knows subject (some x) ∈ s.past c := by
        rw [hpast]
        exact List.mem_cons_self
      rcases hs.moment_of_mem hread with ⟨u₀, v₀, hknows⟩
      have hchecked : verified current x.passwordHash ∈ s.past c := by
        rw [hpast]
        exact List.mem_cons_of_mem _ List.mem_cons_self
      have hverified := hs.verify_of_verified hchecked
      have hkeyed := (hknows.before.invariant (hd.of_reaches hknows.reaches)).keyed
      have hsalt : salt.octets.length = 16 := by
        have hdrawn : ⟨.freshSalt, salt⟩ ∈ s.past c := by
          rw [hpast]
          simp [replacing]
        rcases hs.exists_salt hdrawn with ⟨n, hn⟩
        rw [← hn]
        exact hsalts n
      refine ⟨x, (Password.hash f.cost salt new).text, before, after, ?_⟩
      constructor
      case entitled =>
          exact ⟨hkeyed subject x hknows.account_of_knows.left, hknows.account_of_knows.right,
            husable, hverified, hother, hvalid⟩
      case verifies =>
          exact Password.verify_text_hash f.cost salt new hcost hmemory hpasses (by omega)
            (by omega)
      case calls => exact hcalls
      case moments =>
          intro turn hturn
          exact hs.moment_of_mem hturn
      case read =>
          intro u v hmoment
          exact hmoment.account_of_knows.left
      case effects =>
          intro turn u v hmoment
          exact replaces_of_moment hd hcalls hmoment
      case stored =>
          intro u v hmoment
          refine ⟨hmoment.hasPassword, ?_⟩
          rintro actions later rfl hist henroll hmark
          exact hmoment.hasPassword.run henroll hist hmark
      case ended =>
          intro families u v hmoment
          exact hmoment.ended hd
      case distinct => exact hs.nodup_of_replacing hd hpast
      case reported =>
          refine ⟨id, t, ?_, ?_⟩
          · rw [hpast, List.length_append]
            rfl
          · apply hs.mem_trail (i := c)
            rw [hpast, List.length_append]
            simp [replacing]

def Sample.changed : Service :=
  Sample.underway.run Sample.facade
    (List.replicate 13 (.advance 0) ++ List.replicate 12 (.advance 1))

/-- A change of a password ends the session that was opened before it. -/
theorem replaced_changed :
    Reachable Sample.facade Sample.changed ∧ Sample.changed.DistinctIds ∧
      Sample.facade.cost.check = .ok () ∧
      (∀ n, (Sample.changed.world.supply.salts n).octets.length = 16) ∧
      Sample.changed.Withdrawn Sample.family ∧
      ∃ x hash before after, Replaced Sample.facade Sample.changed 1 Sample.subject.id
        "old password" "new password" x hash before after := by
  have hs : Reachable Sample.facade Sample.changed := Sample.reachable_run _
  have hd : Sample.changed.DistinctIds := Sample.distinctIds_run (by decide +kernel)
  have hsupply : Sample.changed.world.supply = Sample.supply :=
    Reaches.supply_eq (f := Sample.facade) (s := Sample.underway) ⟨_, rfl⟩
  have hsalts : ∀ n, (Sample.changed.world.supply.salts n).octets.length = 16 := by
    intro n
    rw [hsupply]
    exact List.length_replicate
  have hanswered : Sample.changed.Answered 1 Sample.change (.ok ()) := by
    apply answered_of_answer?
    rfl
  have hwithdrawn : Sample.changed.Withdrawn Sample.family := by
    have hrevoked : (Sample.changed.tokens.families.get? Sample.family).any Family.isRevoked =
        true := by decide +kernel
    exact (Option.any_eq_true _ _).mp hrevoked
  rcases replaced_or_untouched hs hd rfl (by decide) (by decide) hsalts hanswered with
    ⟨_, hreplaced⟩ | ⟨⟨_, herror⟩, _⟩
  · exact ⟨hs, hd, rfl, hsalts, hwithdrawn, hreplaced⟩
  · cases herror

end Service

end SessionAuth
