import SessionAuth.Proofs.Flow.Bounded
import SessionAuth.Proofs.Service.Runs
import SessionAuth.Proofs.Service.Scripts

/-!
# Requests come to an end

A login takes at most fifteen turns and a refresh at most fourteen, whatever else is in flight.
Either of them halts only if a call of the store fails, if no token can be signed for a subject
that may act, or after the last generation.
-/

namespace SessionAuth

open Time Refresh

namespace Service

open SessionAuth.Flow

variable {f : Session.Facade}

/-- Why a login or a refresh halts. -/
inductive Fails (f : Session.Facade) : Request → List Turn → Halt → Prop where
  | call {q : Request} {past : List Turn} {c : Store.Call} {e : StoreError}
      (hfailed : ⟨.store c, .error e⟩ ∈ past) : Fails f q past (.fault (.store e))
  | login {identifier password : String} {past : List Turn} {x : Subject} {t : Instant}
      {id : Id .accessToken} {family : FamilyId} {e : Halt}
      (hnamed : named identifier (some x) ∈ past)
      (hverified : verified password x.passwordHash ∈ past) (husable : x.isUsable = true)
      (hclock : ⟨.clock, t⟩ ∈ past)
      (hissue : f.issuer.issueAccess t id x.id x.admin (some family) = .error e) :
      Fails f (.login identifier password) past e
  | refresh {p : Secret} {past : List Turn} {r : Record} {x : Subject} {t : Instant}
      {id : Id .accessToken} {e : Halt} (hfound : found p (some r) ∈ past)
      (hknows : knows r.subject (some x) ∈ past) (husable : x.isUsable = true)
      (hclock : ⟨.clock, t⟩ ∈ past)
      (hissue : f.issuer.issueAccess t id x.id x.admin (some r.family) = .error e) :
      Fails f (.refresh p) past e
  | generation {p : Secret} {past : List Turn} {r : Record} {x : Subject}
      (hfound : found p (some r) ∈ past) (hknows : knows r.subject (some x) ∈ past)
      (husable : x.isUsable = true) (hlast : ¬ r.generation < Session.maxGeneration) :
      Fails f (.refresh p) past (.overflow .generation)

variable {past : List Turn}

theorem bounded_callOf (q : Request) (c : Store.Call) : Bounded (Fails f q) 1 past (call c) :=
  bounded_call (fun _ => Fails.call (List.mem_append_right _ List.mem_cons_self))

/-! # Issuing -/

section Issuing

variable {cause : List Turn → Halt → Prop} {i : Access.Issuer} {subject : SubjectId}

theorem bounded_issueAccess {admin : Bool} {family : Option FamilyId}
    (hcause : ∀ later t id e, past <+: later → ⟨.clock, t⟩ ∈ later →
      i.issueAccess t id subject admin family = .error e → cause later e) :
    Bounded cause 2 past (Session.issueAccess i subject admin family) := by
  unfold Session.issueAccess
  intro t
  apply (bounded_newId .accessToken).bind
  intro later id hlater
  apply bounded_ofExcept
  intro e he
  exact hcause later t id e ((List.prefix_append _ _).trans hlater) (hlater.subset (by simp)) he

theorem bounded_issueRefresh (family : FamilyId) (generation : Int) :
    Bounded cause 3 past (Session.issueRefresh i subject family generation) := by
  unfold Session.issueRefresh
  apply (bounded_perform .freshSecret).bind
  intro _ secret _
  apply bounded_now.bind
  intro _ t _
  apply (bounded_newId .record).bind
  intro _ id _
  exact bounded_done _

end Issuing

/-! # Refreshes -/

section Refresh

variable (f) (p : Secret) (r : Record)

theorem bounded_revokeForReuse :
    Bounded (Fails f (.refresh p)) 2 past (Session.revokeForReuse r) := by
  unfold Session.revokeForReuse
  apply (bounded_callOf _ _).bind
  intro _ n _
  apply (bounded_note _).bind
  intro _ _ _
  exact bounded_done _

theorem bounded_revokeForSubject :
    Bounded (Fails f (.refresh p)) 2 past (Session.revokeForSubject r) := by
  unfold Session.revokeForSubject
  apply (bounded_callOf _ _).bind
  intro _ n _
  apply (bounded_note _).bind
  intro _ _ _
  exact bounded_done _

variable {r}

theorem bounded_exchange {x : Subject} (hfound : found p (some r) ∈ past)
    (hknows : knows r.subject (some x) ∈ past) (husable : x.isUsable = true) :
    Bounded (Fails f (.refresh p)) 8 past (Session.exchange f.issuer x r) := by
  unfold Session.exchange
  refine Bounded.bind (m := 2) (n := 6) (bounded_issueAccess ?_) ?_
  · intro later t id e hlater hclock hissue
    exact Fails.refresh (hlater.subset hfound) (hlater.subset hknows) husable hclock hissue
  · intro later access hlater
    refine Bounded.bind (m := 0) (bounded_ofExcept ?_) ?_
    · intro e he
      unfold Session.nextGeneration at he
      split at he
      case isTrue => cases he
      case isFalse hlast =>
          cases he
          exact Fails.generation (hlater.subset hfound) (hlater.subset hknows) husable hlast
    · intro _ generation _
      apply (bounded_issueRefresh r.family generation).bind
      intro _ _ _
      apply (bounded_callOf _ _).bind
      intro _ o _
      have hdone : ∀ {later} (j : Except Session.Rejection Session.Rotated),
          Bounded (Fails f (.refresh p)) 2 later (Flow.done j) := fun j => bounded_done j
      cases o with
      | applied =>
          apply (bounded_note _).bind
          intro _ _ _
          exact bounded_done _
      | notFound => exact hdone _
      | familyRevoked => exact hdone _
      | stateMismatch state =>
          cases state with
          | active => exact hdone _
          | revoked => exact hdone _
          | consumed =>
              apply (bounded_revokeForReuse f p r).bind
              intro _ _ _
              exact bounded_done _

theorem bounded_advance (hfound : found p (some r) ∈ past) :
    Bounded (Fails f (.refresh p)) 9 past (Session.advance f.issuer r) := by
  have hbar : ∀ {later}, Bounded (Fails f (.refresh p)) 8 later
      (Session.revokeForSubject r >>= fun j => pure (.error j) :
        Flow (Except Session.Rejection Session.Rotated)) := by
    intro later
    apply (bounded_revokeForSubject f p r).bind
    intro _ _ _
    exact bounded_done _
  unfold Session.advance
  intro a
  cases a with
  | error e => exact Fails.call (List.mem_append_right _ List.mem_cons_self)
  | ok x =>
      cases x with
      | none => exact hbar
      | some x =>
          change Bounded _ 8 _ (if x.isUsable then _ else _)
          cases husable : x.isUsable with
          | true =>
              rw [if_pos rfl]
              exact bounded_exchange f p (List.mem_append_left _ hfound)
                (List.mem_append_right _ List.mem_cons_self) husable
          | false =>
              rw [if_neg Bool.false_ne_true]
              exact hbar

theorem bounded_findPresented {α : Type} {n : Nat} {next : Option Record → Flow α}
    (h : ∀ a, Bounded (Fails f (.refresh p)) n (past ++ [found p a])
      (next (a.filter (fun r => r.belongsTo p)))) :
    Bounded (Fails f (.refresh p)) (n + 1) past (Session.findPresented p >>= next) := by
  intro a
  cases a with
  | error e =>
      exact (bounded_halt _).mpr (Fails.call (List.mem_append_right _ List.mem_cons_self))
  | ok a => exact h a

theorem bounded_rotate :
    Bounded (Fails f (.refresh p)) 11 [] (Session.rotate f.issuer p) := by
  unfold Session.rotate
  apply bounded_findPresented
  intro a
  cases hpresented : a.filter (fun r => r.belongsTo p) with
  | none => exact bounded_done _
  | some r =>
      rcases Option.filter_eq_some_iff.mp hpresented with ⟨rfl, _⟩
      have hread (state : State) : Bounded (Fails f (.refresh p)) 10 [found p (some r)]
          (now >>= fun t =>
            if r.isExpired t then pure (.error (.expired r.subject r.family))
            else if state = .consumed then
              Session.revokeForReuse r >>= fun j => pure (.error j)
            else Session.advance f.issuer r) := by
        apply bounded_now.bind
        intro later t hlater
        by_cases hexpired : r.isExpired t = true
        · rw [if_pos hexpired]
          exact bounded_done _
        · rw [if_neg hexpired]
          by_cases hconsumed : state = .consumed
          · rw [if_pos hconsumed]
            apply (bounded_revokeForReuse f p r).bind
            intro _ _ _
            exact bounded_done _
          · rw [if_neg hconsumed]
            exact bounded_advance f p (hlater.subset (by simp))
      dsimp only
      cases r.state with
      | revoked =>
          apply (bounded_note _).bind
          intro _ _ _
          exact bounded_done _
      | active => exact hread .active
      | consumed => exact hread .consumed

theorem bounded_refresh : Bounded (Fails f (.refresh p)) 14 [] (f.refresh p) := by
  unfold Session.Facade.refresh
  apply (bounded_rotate f p).bind
  intro later x _
  cases x with
  | ok r =>
      apply (bounded_report _ _ _ _).bind
      intro _ _ _
      exact bounded_done _
  | error rejection =>
      refine Bounded.bind (m := 3) (n := 0) ?_ (fun _ _ _ => bounded_done _)
      unfold Session.Facade.reportRejection
      cases rejection with
      | reuseDetected subject family n => exact bounded_report _ _ _ _
      | unknown => exact bounded_report _ _ _ _
      | familyRevoked subject family => exact bounded_report _ _ _ _
      | expired subject family => exact bounded_report _ _ _ _
      | subjectInactive subject family => exact bounded_report _ _ _ _

end Refresh

/-! # Logins -/

section Login

variable (f) (identifier password : String)

theorem bounded_rejectLogin (subject : Option SubjectId) (failure : Failure) (reason : String) :
    Bounded (Fails f (.login identifier password)) 4 past
      (Session.Facade.rejectLogin subject failure reason) := by
  unfold Session.Facade.rejectLogin
  apply (bounded_note _).bind
  intro _ _ _
  refine Bounded.bind (m := 3) (n := 0) (bounded_report _ _ _ _) ?_
  intro _ _ _
  exact bounded_done _

theorem bounded_openSession {x : Subject} (hnamed : named identifier (some x) ∈ past)
    (hverified : verified password x.passwordHash ∈ past) (husable : x.isUsable = true) :
    Bounded (Fails f (.login identifier password)) 13 past (f.openSession x) := by
  unfold Session.Facade.openSession
  apply (bounded_newId .family).bind
  intro later family hlater
  refine Bounded.bind (m := 2) (n := 10) (bounded_issueAccess ?_) ?_
  · intro rest t id e hrest hclock hissue
    have hpast := hlater.trans hrest
    exact Fails.login (hpast.subset hnamed) (hpast.subset hverified) husable hclock hissue
  · intro _ access _
    apply (bounded_issueRefresh family 0).bind
    intro _ issued _
    apply (bounded_callOf _ _).bind
    intro _ _ _
    apply bounded_now.bind
    intro _ t _
    apply (bounded_callOf _ _).bind
    intro _ _ _
    apply (bounded_note _).bind
    intro _ _ _
    apply (bounded_report _ _ _ _).bind
    intro _ _ _
    exact bounded_done _

theorem bounded_login :
    Bounded (Fails f (.login identifier password)) 15 [] (f.login identifier password) := by
  unfold Session.Facade.login
  intro a
  cases a with
  | error e => exact Fails.call List.mem_cons_self
  | ok x =>
      cases x with
      | none =>
          exact (bounded_rejectLogin f identifier password _ _ _).mono (by decide)
      | some x =>
          intro v
          change Bounded _ 13 _
            (if !Password.Verification.accepts v then _ else if !x.isUsable then _ else _)
          cases haccepts : Password.Verification.accepts v with
          | false =>
              rw [if_pos (by rfl)]
              exact (bounded_rejectLogin f identifier password _ _ _).mono (by decide)
          | true =>
              rw [if_neg (by simp)]
              have hsame : v = .same := beq_iff_eq.mp haccepts
              subst hsame
              cases husable : x.isUsable with
              | false =>
                  rw [if_pos (by rfl)]
                  exact (bounded_rejectLogin f identifier password _ _ _).mono (by decide)
              | true =>
                  rw [if_neg (by simp)]
                  exact bounded_openSession f identifier password (by simp) (by simp) husable

end Login

/-! # All tasks -/

/-- A task takes no more turns than its request may take, and halts only as the request may. -/
theorem Reachable.bounded_rest {s : Service} (hs : Reachable f s)
    {cause : List Turn → Halt → Prop} {n i : Nat} {q : Request} {x : Flow q.Reply}
    (hq : Bounded cause n [] (q.flow f)) (hi : s.tasks[i]? = some ⟨q, x⟩) :
    Bounded cause (n - (s.past i).length) (s.past i) x := by
  have htasks := hs.ofTasks (P := fun q' past x => q' = q →
    Bounded cause (n - past.length) past x) ?_ ?_
  · exact htasks.holds i q x hi rfl
  · intro q' hq'
    subst hq'
    exact hq
  · intro q' past e next r hbounded hq'
    have hnext := (bounded_step.mp (hbounded hq')).right r
    rw [List.length_append, List.length_singleton, ← Nat.sub_sub]
    exact hnext

end Service

end SessionAuth
