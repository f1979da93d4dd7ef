import SessionAuth.Proofs.Flow.Commitment
import SessionAuth.Proofs.Service.Alone
import SessionAuth.Proofs.Service.Moments
import SessionAuth.Proofs.Session.Decision

/-!
# All or nothing

A refresh and a logout sign, look up and draw all that they need before they write, and once they
have written nothing can go wrong any more.  So whenever one of them halts, for whatever fault of
the store or of the signing, everything is as if the request had never been made, and whoever made
it may make it again.
-/

namespace SessionAuth

open Time

namespace Effect

/-- Tells whether an effect with its answer may have changed the store or the trail.  A call that
fails changes nothing, and neither does an exchange that is not carried out. -/
def alters : (e : Effect) → e.Reply → Bool
  | audit _, _ => true
  | store (.transition _ _ _ _), .ok .applied => true
  | store (.transition _ _ _ _), _ => false
  | store c, .ok _ => !Service.reads c
  | _, _ => false

end Effect

def Turn.alters (turn : Turn) : Bool :=
  turn.effect.alters turn.reply

namespace Session

open SessionAuth.Flow

/-! # Where a request commits -/

theorem outward_alters : Outward Turn.alters where
  own := by
    intro e r he
    cases e with
    | store => cases he
    | audit => cases he
    | _ => rfl
  failed := by
    intro c e
    cases c <;> rfl

abbrev nothing : Turn → Bool :=
  fun _ => false

theorem outward_nothing : Outward nothing :=
  ⟨fun _ _ _ => rfl, fun _ _ => rfl⟩

section Commits

variable (i : Access.Issuer)

theorem avoids_issueAccess {kind : Turn → Bool} (hout : Outward kind) (subject : SubjectId)
    (admin : Bool) (family : Option FamilyId) :
    Avoids kind (issueAccess i subject admin family) := by
  unfold issueAccess
  apply (calm_now hout).avoids.bind
  intro now
  apply (calm_newId hout .accessToken).avoids.bind
  intro id
  exact avoids_ofExcept _

theorem calm_issueRefresh {kind : Turn → Bool} (hout : Outward kind) (subject : SubjectId)
    (family : FamilyId) (generation : Int) :
    Calm kind (issueRefresh i subject family generation) := by
  unfold issueRefresh
  apply (calm_perform hout (e := .freshSecret) rfl).bind
  intro secret
  apply (calm_now hout).bind
  intro now
  apply (calm_newId hout .record).bind
  intro id
  trivial

theorem avoids_findPresented {kind : Turn → Bool} (hout : Outward kind) (p : Refresh.Secret)
    (hfound : ∀ r, kind (Service.found p r) = false) : Avoids kind (findPresented p) :=
  (avoids_call hout hfound).bind (fun _ => trivial)

theorem commits_revokeForReuse (r : Refresh.Record) :
    Commits Turn.alters nothing (revokeForReuse r) := by
  apply commits_call_bind outward_alters
  intro records
  have hrest : Calm nothing (Flow.note (.reuseDetected r.subject r.family r.generation records) >>=
      fun _ => pure (Rejection.reuseDetected r.subject r.family records)) :=
    (calm_note outward_nothing _).bind (fun _ => trivial)
  exact ⟨fun _ => hrest, hrest.commits⟩

theorem commits_revokeForSubject (r : Refresh.Record) :
    Commits Turn.alters nothing (revokeForSubject r) := by
  apply commits_call_bind outward_alters
  intro records
  have hrest : Calm nothing (Flow.note (.refreshForUnusableSubject r.subject r.family records) >>=
      fun _ => pure (Rejection.subjectInactive r.subject r.family)) :=
    (calm_note outward_nothing _).bind (fun _ => trivial)
  exact ⟨fun _ => hrest, hrest.commits⟩

theorem commits_exchange (x : Subject) (r : Refresh.Record) :
    Commits Turn.alters nothing (exchange i x r) := by
  unfold exchange
  apply Commits.after (avoids_issueAccess i outward_alters _ _ _)
  intro access
  apply Commits.after (avoids_ofExcept _)
  intro generation
  apply Commits.after (calm_issueRefresh i outward_alters _ _ _).avoids
  rintro ⟨secret, successor⟩
  apply commits_call_bind outward_alters
  intro outcome
  have hrefused : ∀ rejection : Rejection, Commits Turn.alters nothing
      (pure (.error rejection) : Flow (Except Rejection Rotated)) := fun _ => trivial
  cases outcome with
  | applied =>
      have hrest : Calm nothing (Flow.note (.refreshRotated r.family generation) >>= fun _ =>
          (pure (.ok ⟨x.id, r.family, generation, r.id, access, secret, successor.expiresAt⟩) :
            Flow (Except Rejection Rotated))) :=
        (calm_note outward_nothing _).bind (fun _ => trivial)
      exact ⟨fun _ => hrest, hrest.commits⟩
  | stateMismatch current =>
      refine ⟨fun h => (nomatch h), ?_⟩
      cases current with
      | consumed => exact (commits_revokeForReuse r).followed (fun _ => trivial)
      | active => exact hrefused _
      | revoked => exact hrefused _
  | familyRevoked => exact ⟨fun h => (nomatch h), hrefused _⟩
  | notFound => exact ⟨fun h => (nomatch h), hrefused _⟩

theorem commits_advance (r : Refresh.Record) : Commits Turn.alters nothing (advance i r) := by
  unfold advance
  apply Commits.after (avoids_call outward_alters (fun _ => rfl))
  intro y
  have hbarred : Commits Turn.alters nothing (revokeForSubject r >>= fun j =>
      (pure (.error j) : Flow (Except Rejection Rotated))) :=
    (commits_revokeForSubject r).followed (fun _ => trivial)
  cases y with
  | none => exact hbarred
  | some x =>
      dsimp only
      split
      · exact commits_exchange i x r
      · exact hbarred

theorem commits_rotate (p : Refresh.Secret) : Commits Turn.alters nothing (rotate i p) := by
  unfold rotate
  apply Commits.after (avoids_findPresented outward_alters p (fun _ => rfl))
  intro y
  cases y with
  | none => trivial
  | some r =>
      dsimp only
      split
      · apply Calm.commits
        apply (calm_note outward_nothing _).bind
        intro _
        trivial
      · apply Commits.after (calm_now outward_alters).avoids
        intro now
        split
        · trivial
        · split
          · exact (commits_revokeForReuse r).followed (fun _ => trivial)
          · exact commits_advance i r

theorem commits_refresh (f : Facade) (p : Refresh.Secret) :
    Commits Turn.alters nothing (f.refresh p) := by
  have hreport := @calm_report nothing (fun _ => rfl)
  unfold Facade.refresh
  apply (commits_rotate f.issuer p).followed
  intro result
  cases result with
  | ok o => exact (hreport _ _ _ _).bind (fun _ => trivial)
  | error rejection =>
      have hrejected : Calm nothing (Facade.reportRejection rejection) := by
        cases rejection <;> exact hreport _ _ _ _
      exact hrejected.bind (fun _ => trivial)

theorem commits_logout (p : Refresh.Secret) :
    Commits Turn.alters nothing (Facade.logout p) := by
  have hreport := @calm_report nothing (fun _ => rfl)
  unfold Facade.logout
  have hrevoke : Commits Turn.alters nothing (revokePresented p .logout) := by
    unfold revokePresented
    apply Commits.after (avoids_findPresented outward_alters p (fun _ => rfl))
    intro y
    cases y with
    | none => trivial
    | some r =>
        apply commits_call_bind outward_alters
        intro records
        exact ⟨fun _ => trivial, trivial⟩
  apply hrevoke.followed
  intro y
  cases y with
  | none => exact calm_note outward_nothing _
  | some revoked =>
      apply (calm_note outward_nothing _).bind
      intro _
      exact hreport _ _ _ _

end Commits

end Session

/-! # Attempts that nothing interrupts -/

namespace Session

open World

variable (f : Facade) (w : World) {p : Refresh.Secret} {r : Refresh.Record}

theorem run_refresh_fst : (w.run (f.refresh p)).1 =
    (w.run (rotate f.issuer p)).1.map (fun result => match result with
      | .ok o => .ok ⟨o.subject, o.family, o.access, f.issuer.accessSeconds, o.secret, o.expiresAt⟩
      | .error rejection => .error rejection.failure) := by
  unfold Facade.refresh
  rcases hrun : w.run (rotate f.issuer p) with ⟨result, v⟩
  cases result with
  | error h => rw [run_bind_of_error hrun]; rfl
  | ok result =>
      rw [run_bind_of_ok hrun]
      cases result with
      | ok o => rfl
      | error rejection => cases rejection <;> rfl

theorem exchange_not_refused (i : Access.Issuer) {x : Subject}
    (happlies : ∀ now successor o t, w.store.perform now
      (.transition r.id .active .consumed (some successor)) = .ok (o, t) → o = .applied)
    (j : Rejection) : (w.run (exchange i x r)).1 ≠ .ok (.error j) := by
  intro h
  cases haccess : i.issueAccess (w.instant 0) ⟨w.uuid 0⟩ x.id x.admin (some r.family) with
  | error e =>
      rw [run_exchange_of_unsigned i w haccess] at h
      cases h
  | ok access =>
      cases hnext : nextGeneration r.generation with
      | error e =>
          rw [run_exchange_of_uncounted i w haccess hnext] at h
          cases h
      | ok generation =>
          rw [run_exchange_of_signed i w hnext haccess] at h
          cases hperform : (prepared w).store.perform ((prepared w).instant 0) (.transition r.id
              .active .consumed (some (issued i w x r generation))) with
          | error e =>
              rw [run_call_of_error hperform] at h
              cases h
          | ok result =>
              rcases result with ⟨o, t⟩
              rw [run_call hperform, happlies _ _ _ _ hperform] at h
              cases h

section Coherent

variable {w} (ht : w.store.tokens.Coherent)
include ht

theorem applied_of_active {now : Instant} {s : Refresh.Record} {o : Refresh.Transition} {t : Store}
    (hr : w.store.tokens.records.get? r.id = some r) (hstate : r.state = .active)
    (h : w.store.perform now (.transition r.id .active .consumed (some s)) = .ok (o, t)) :
    o = .applied := by
  rcases ht.live_of_get? hr (by simp [hstate]) with ⟨g, hg, hlive⟩
  have htransition := (Store.perform_transition h).left
  generalize t.tokens = u at htransition
  cases Refresh.Table.transition_cases htransition with
  | notFound hrecord =>
      rw [hr] at hrecord
      cases hrecord
  | familyRevoked hrecord hclosed =>
      rw [hr] at hrecord
      cases hrecord
      rw [Refresh.Table.isClosed_eq_false.mpr ⟨g, hg, hlive⟩] at hclosed
      cases hclosed
  | stateMismatch hrecord _ hother =>
      rw [hr] at hrecord
      cases hrecord
      exact absurd hstate hother
  | applied => rfl

theorem transition_of_stored {now : Instant} {s : Refresh.Record}
    (hr : w.store.tokens.records.get? r.id = some r) (hstate : r.state = .active)
    (hfamily : s.family = r.family) (hstored : w.store.tokens.byHash.get? s.tokenHash ≠ none) :
    w.store.perform now (.transition r.id .active .consumed (some s)) =
      .error .hashAlreadyStored := by
  rcases ht.live_of_get? hr (by simp [hstate]) with ⟨g, hg, hlive⟩
  have hopen : w.store.tokens.isClosed r.family = false :=
    Refresh.Table.isClosed_eq_false.mpr ⟨g, hg, hlive⟩
  have hcontains : w.store.tokens.byHash.contains s.tokenHash = true :=
    Option.isSome_iff_ne_none.mpr hstored
  have hpush : w.store.tokens.pushSuccessor r.family s = .error .hashAlreadyStored := by
    unfold Refresh.Table.pushSuccessor Refresh.Table.push
    rw [if_neg (fun hne => hne hfamily), if_pos hcontains]
    rfl
  have htransition : w.store.tokens.transition now r.id .active .consumed (some s) =
      .error .hashAlreadyStored := by
    unfold Refresh.Table.transition
    rw [hr]
    simp only [hopen, hstate, hpush]
    rfl
  simp only [Store.perform, htransition]
  rfl

theorem consumed_of_reuseDetected (h : (w.run (f.refresh p)).1 = .ok (.error .reuseDetected)) :
    ∃ r, w.store.tokens.findByHash p.hash = some r ∧ r.state = .consumed := by
  have hrotate : ∃ subject family n,
      (w.run (rotate f.issuer p)).1 = .ok (.error (.reuseDetected subject family n)) := by
    rw [run_refresh_fst] at h
    rcases hresult : (w.run (rotate f.issuer p)).1 with e | (j | o)
    · rw [hresult] at h
      cases h
    · rw [hresult] at h
      cases j with
      | reuseDetected subject family n => exact ⟨subject, family, n, rfl⟩
      | _ => cases h
    · rw [hresult] at h
      cases h
  rcases hrotate with ⟨subject, family, n, hrotate⟩
  cases hfound : w.store.tokens.findByHash p.hash with
  | none =>
      rw [run_rotate_of_unknown f.issuer w hfound] at hrotate
      cases hrotate
  | some r =>
      refine ⟨r, rfl, ?_⟩
      rcases ht.get?_of_findByHash hfound with ⟨hr, hhash⟩
      have hown : r.belongsTo p = true := by simp [Refresh.Record.belongsTo, hhash]
      cases hstate : r.state with
      | consumed => rfl
      | revoked =>
          rw [run_rotate_of_revoked f.issuer w hfound hown hstate] at hrotate
          cases hrotate
      | active =>
          rw [run_rotate_of_found f.issuer w hfound hown (by simp [hstate])] at hrotate
          split at hrotate
          · cases hrotate
          · rw [if_neg (by simp [hstate])] at hrotate
            by_cases husable : ∃ x, w.store.subjects.findById r.subject = some x ∧
                x.isUsable = true
            · rcases husable with ⟨x, hx, husable⟩
              rw [run_advance_of_usable f.issuer w.tick.tick hx husable] at hrotate
              refine absurd hrotate (exchange_not_refused _ f.issuer ?_ _)
              intro now successor o t hperform
              exact applied_of_active ht hr hstate hperform
            · have hbarred : ∀ x, w.store.subjects.findById r.subject = some x →
                  x.isUsable = false := by
                intro x hx
                rw [← Bool.not_eq_true]
                exact fun hx' => husable ⟨x, hx, hx'⟩
              rw [run_advance_of_unusable f.issuer w.tick.tick hbarred] at hrotate
              cases hrotate

theorem run_refresh_of_stored (hfound : w.store.tokens.findByHash p.hash = some r)
    (hstate : r.state = .active) (hfresh : ¬ r.expiresAt ≤ w.instant 1) {x : Subject}
    (hx : w.store.subjects.findById r.subject = some x) (husable : x.isUsable = true)
    {generation : Int} {access : Access.Credential}
    (hnext : nextGeneration r.generation = .ok generation)
    (haccess : f.issuer.issueAccess (w.instant 3) ⟨w.uuid 0⟩ x.id x.admin (some r.family) =
      .ok access)
    (hstored : w.store.tokens.byHash.get? w.secret.hash ≠ none) :
    (w.run (f.refresh p)).1 = .error (.fault (.store .hashAlreadyStored)) := by
  rcases ht.get?_of_findByHash hfound with ⟨hr, hhash⟩
  let v : World := w.tick.tick.called w.tick.tick.store
  have hperform : (prepared v).store.perform ((prepared v).instant 0) (.transition r.id .active
      .consumed (some (issued f.issuer v x r generation))) = .error .hashAlreadyStored :=
    transition_of_stored ht hr hstate rfl hstored
  have hrotate : (w.run (rotate f.issuer p)).1 = .error (.fault (.store .hashAlreadyStored)) := by
    rw [run_rotate_of_active f.issuer ht hr hhash hstate hfresh,
      run_advance_of_usable f.issuer w.tick.tick hx husable,
      run_exchange_of_signed f.issuer v hnext haccess, run_call_of_error hperform]
  rw [run_refresh_fst, hrotate]
  rfl

end Coherent

end Session

/-! # Turns that leave everything as it was -/

theorem Refresh.Table.eq_of_not_applied {t u : Refresh.Table} {now : Instant} {id : RecordId}
    {expected state : Refresh.State} {successor : Option Refresh.Record} {o : Refresh.Transition}
    (h : t.transition now id expected state successor = .ok (o, u)) (ho : o ≠ .applied) :
    u = t := by
  unfold transition at h
  split at h
  · cases h
    rfl
  · split at h
    · cases h
      rfl
    · split at h
      · cases h
        rfl
      · rename_i r _ _ _
        cases successor with
        | none =>
            cases h
            exact absurd rfl ho
        | some s =>
            dsimp only at h
            cases hpush : t.pushSuccessor r.family s with
            | error e =>
                rw [hpush] at h
                cases h
            | ok v =>
                rw [hpush] at h
                cases h
                exact absurd rfl ho

theorem Store.eq_of_not_alters {s u : Store} {now : Instant} {c : Call} {a : c.Reply}
    (hkept : Effect.alters (.store c) (.ok a) = false) (h : s.perform now c = .ok (a, u)) :
    u = s := by
  cases c with
  | transition id expected state successor =>
      rcases Store.perform_transition h with ⟨htransition, hsubjects⟩
      have hshares := Store.shares_perform h
      have htokens : u.tokens = s.tokens := by
        apply Refresh.Table.eq_of_not_applied htransition
        rintro rfl
        cases hkept
      cases u
      cases s
      cases hsubjects
      cases hshares
      cases htokens
      rfl
  | insert => cases hkept
  | revokeFamily => cases hkept
  | revokeSubjectFamilies => cases hkept
  | markPasswordChanged => cases hkept
  | recordAuthentication => cases hkept
  | _ => exact Store.perform_of_reads rfl h

def World.lasting (w : World) : Store × List Audit.Event :=
  (w.store, w.trail)

namespace Service

theorem Meets.lasting_eq {w v : World} {turn : Turn} (h : Meets w turn.effect turn.reply v)
    (hkept : turn.alters = false) : v.lasting = w.lasting := by
  rcases turn with ⟨e, r⟩
  have htrail : v.trail = w.trail := by
    have hnone : Turn.event? ⟨e, r⟩ = none := by
      cases e with
      | audit => cases hkept
      | _ => rfl
    rw [Meets.trail_eq h, hnone]
    exact List.append_nil _
  have hstore : v.store = w.store := by
    cases e with
    | store c =>
        rcases Meets.store_cases h with ⟨_, _, hstore⟩ | ⟨now, a, rfl, hperform⟩
        · exact hstore
        · exact Store.eq_of_not_alters hkept hperform
    | _ => exact Meets.store_eq h rfl
  unfold World.lasting
  rw [hstore, htrail]

end Service

/-! # Stores that fail -/

/-- Stores of any kind, with all that a call may be answered and may leave behind. -/
structure Backend where
  State : Type
  Performs : State → (c : Store.Call) → Except StoreError c.Reply → State → Prop
  failed : ∀ {s t : State} {c : Store.Call} {e : StoreError}, Performs s c (.error e) t → t = s
  kept : ∀ {s t : State} {c : Store.Call} {a : c.Reply},
    Effect.alters (.store c) (.ok a) = false → Performs s c (.ok a) t → t = s

namespace Backend

/-- The store of the service, each call of which may fail at any time. -/
def faulty : Backend where
  State := Store
  Performs := fun s c r t =>
    (∃ e, r = .error e ∧ t = s) ∨ ∃ now a, r = .ok a ∧ s.perform now c = .ok (a, t)
  failed := by
    rintro s t c e (⟨_, _, hkept⟩ | ⟨_, _, hok, _⟩)
    · exact hkept
    · cases hok
  kept := by
    rintro s t c a halters (⟨_, herror, _⟩ | ⟨now, b, hok, hperform⟩)
    · cases herror
    · cases hok
      exact Store.eq_of_not_alters halters hperform

/-- A turn in surroundings with such stores and a trail.  Everything else is answered somehow. -/
inductive Meets (b : Backend) : b.State × List Audit.Event → Turn → b.State × List Audit.Event →
    Prop where
  | call {s t : b.State} {trail : List Audit.Event} {c : Store.Call} {r : Except StoreError c.Reply}
      (hperforms : b.Performs s c r t) : Meets b (s, trail) ⟨.store c, r⟩ (t, trail)
  | report {s : b.State} {trail : List Audit.Event} {event : Audit.Event} :
      Meets b (s, trail) ⟨.audit event, ()⟩ (s, trail ++ [event])
  | own {x : b.State × List Audit.Event} {e : Effect} {r : e.Reply} (he : e.isOwn = true) :
      Meets b x ⟨e, r⟩ x

theorem Meets.eq {b : Backend} {x y : b.State × List Audit.Event} {turn : Turn}
    (h : b.Meets x turn y) (hkept : turn.alters = false) : y = x := by
  cases h with
  | @call s t trail c r hperforms =>
      cases r with
      | error e => rw [b.failed hperforms]
      | ok a => rw [b.kept hkept hperforms]
  | report => cases hkept
  | own => rfl

end Backend

/-! # Attempts -/

namespace Service

/-- The requests that are made again when they were not answered. -/
def Repeatable (p : Refresh.Secret) (q : Request) : Prop :=
  q = .refresh p ∨ q = .logout p

theorem Repeatable.commits {p : Refresh.Secret} {q : Request} (h : Repeatable p q)
    (f : Session.Facade) : (q.flow f).Commits Turn.alters Session.nothing := by
  rcases h with rfl | rfl
  · exact Session.commits_refresh f p
  · exact Session.commits_logout p

/-- An attempt in a world, each call of which may fail, that halts and leaves another world. -/
def Aborts (f : Session.Facade) (q : Request) (w v : World) : Prop :=
  ∃ turns h, (q.flow f).Halts turns h ∧
    Flow.Along (fun w turn v => Meets w turn.effect turn.reply v) w turns v

theorem Aborts.lasting_eq {f : Session.Facade} {p : Refresh.Secret} {q : Request} {w v : World}
    (h : Aborts f q w v) (hq : Repeatable p q) : v.lasting = w.lasting := by
  rcases h with ⟨turns, halt, hhalts, halong⟩
  have hkeeps : ∀ (w : World) (turn : Turn) (v : World), Meets w turn.effect turn.reply v →
      turn.alters = false → v.lasting = w.lasting := fun _ _ _ hmeets => hmeets.lasting_eq
  exact halong.view_eq hkeeps ((hq.commits f).of_halts hhalts)

theorem aborts_of_run {f : Session.Facade} {q : Request} {w v : World} {h : Halt}
    (hrun : w.run (q.flow f) = (.error h, v)) : Aborts f q w v := by
  have halong : ∀ {turns : List Turn} {w : World}, Flow.Tells World.answer turns w v →
      Flow.Along (fun w turn v => Meets w turn.effect turn.reply v) w turns v := by
    intro turns
    induction turns with
    | nil =>
        rintro w rfl
        exact Flow.Along.nil
    | cons turn rest ih =>
        rintro w ⟨hreply, hrest⟩
        refine Flow.Along.cons ?_ (ih hrest)
        rw [hreply]
        exact Meets.answer turn.effect
  rcases Flow.halts_of_run hrun with ⟨turns, hhalts, htells⟩
  exact ⟨turns, h, hhalts, halong htells⟩

def anew (w : World) (supply : Supply) (drawn : Drawn) : World :=
  { w with supply := supply, drawn := drawn }

theorem alike_anew {w v : World} (h : v.lasting = w.lasting) (supply : Supply) (drawn : Drawn) :
    (anew v supply drawn).Alike (anew w supply drawn) :=
  ⟨rfl, rfl, congrArg Prod.fst h, congrArg Prod.snd h⟩

/-- A refresh or a logout that halts has changed nothing, whichever call of whichever stores has
failed, and whatever could not be signed.  In the service, whoever makes the request again is
answered as it would have been at first, at whatever time, and is not taken for a thief unless the
secret had been exchanged before.  Other requests that are in flight make no difference to what the
turns of the halted one have done.  A successor whose hash is stored already is one of the
faults. -/
theorem faults_change_nothing (f : Session.Facade) (p : Refresh.Secret) :
    (∀ (q : Request) (b : Backend) (turns : List Turn) (h : Halt)
        (before after : b.State × List Audit.Event), Repeatable p q →
      (q.flow f).Halts turns h → Flow.Along b.Meets before turns after → after = before) ∧
    (∀ (q : Request) (w v : World), Repeatable p q → Aborts f q w v →
      v.store = w.store ∧ v.trail = w.trail ∧
        ∀ (again : Request) (supply : Supply) (drawn : Drawn),
          ((anew v supply drawn).run (again.flow f)).1 =
              ((anew w supply drawn).run (again.flow f)).1 ∧
            ((anew v supply drawn).run (again.flow f)).2.Alike
              ((anew w supply drawn).run (again.flow f)).2) ∧
    (∀ (q : Request) (s : Service) (w v : World) (supply : Supply) (drawn : Drawn),
      Reachable f s → s.DistinctIds → w.store = s.world.store → Repeatable p q → Aborts f q w v →
      ((anew v supply drawn).run (f.refresh p)).1 = .ok (.error .reuseDetected) →
      ∃ r, w.store.tokens.findByHash p.hash = some r ∧ r.state = .consumed) ∧
    (∀ (q : Request) (s : Service) (i : Nat) (h : Halt) (turn : Turn) (u v : Service),
      Repeatable p q → Reachable f s → s.tasks[i]? = some ⟨q, .halt h⟩ →
      Moment f s i turn u v → v.world.lasting = u.world.lasting) ∧
    ∀ (s : Service) (w : World) (r : Refresh.Record) (x : Subject) (generation : Int)
        (access : Access.Credential),
      Reachable f s → s.DistinctIds → w.store = s.world.store →
      w.store.tokens.findByHash p.hash = some r → r.state = .active →
      ¬ r.expiresAt ≤ w.instant 1 → w.store.subjects.findById r.subject = some x →
      x.isUsable = true → Session.nextGeneration r.generation = .ok generation →
      f.issuer.issueAccess (w.instant 3) ⟨w.uuid 0⟩ x.id x.admin (some r.family) = .ok access →
      w.store.tokens.byHash.get? w.secret.hash ≠ none →
      ∃ v, w.run (f.refresh p) = (.error (.fault (.store .hashAlreadyStored)), v) ∧
        Aborts f (.refresh p) w v := by
  have hcoherent : ∀ {s : Service} {w : World}, Reachable f s → s.DistinctIds →
      w.store = s.world.store → w.store.tokens.Coherent := by
    intro s w hs hd hw
    rw [hw]
    exact (hs.invariant hd).coherent
  refine ⟨?_, ?_, ?_, ?_, ?_⟩
  · intro q b turns h before after hq hhalts halong
    have hkeeps : ∀ x turn y, b.Meets x turn y → turn.alters = false → id y = id x :=
      fun _ _ _ hmeets hkept => hmeets.eq hkept
    exact halong.view_eq hkeeps ((hq.commits f).of_halts hhalts)
  · intro q w v hq haborts
    have hlasting := haborts.lasting_eq hq
    refine ⟨congrArg Prod.fst hlasting, congrArg Prod.snd hlasting, ?_⟩
    intro again supply drawn
    exact (alike_anew hlasting supply drawn).run _
  · intro q s w v supply drawn hs hd hw hq haborts hreuse
    have hlasting := haborts.lasting_eq hq
    rw [((alike_anew hlasting supply drawn).run _).left] at hreuse
    exact Session.consumed_of_reuseDetected f (w := anew w supply drawn) (hcoherent hs hd hw) hreuse
  · intro q s i h turn u v hq hs htask hmoment
    have hkept := (hq.commits f).of_halts (hs.halts htask) turn hmoment.mem_past
    exact hmoment.takes.meets.lasting_eq hkept
  · intro s w r x generation access hs hd hw hfound hstate hfresh hx husable hnext haccess hstored
    have hresult := Session.run_refresh_of_stored f (hcoherent hs hd hw) hfound hstate hfresh hx
      husable hnext haccess hstored
    refine ⟨_, Prod.ext hresult rfl, aborts_of_run (Prod.ext hresult rfl)⟩

namespace Sample

def colliding : World :=
  anew (underway.run facade (List.replicate 13 (.advance 0))).world
    { supply with secrets := fun _ => secret } ⟨0, 0, 0, 0⟩

theorem run_colliding : ∃ v, colliding.run (facade.refresh secret) =
    (.error (.fault (.store .hashAlreadyStored)), v) := by
  have hobserved : (match (colliding.run (facade.refresh secret)).1 with
      | .error h => decide (h = .fault (.store .hashAlreadyStored))
      | .ok _ => false) = true := by decide +kernel
  cases hresult : (colliding.run (facade.refresh secret)).1 with
  | ok a =>
      rw [hresult] at hobserved
      cases hobserved
  | error h =>
      rw [hresult] at hobserved
      rw [of_decide_eq_true hobserved] at hresult
      exact ⟨_, Prod.ext hresult rfl⟩

end Sample

/-- A refresh whose successor collides with the record that it comes from leaves no trace. -/
theorem faults_change_nothing_colliding :
    ∃ v, Aborts Sample.facade (.refresh Sample.secret) Sample.colliding v ∧
      v.store = Sample.colliding.store ∧ v.trail = Sample.colliding.trail := by
  rcases Sample.run_colliding with ⟨v, hrun⟩
  have haborts : Aborts Sample.facade (.refresh Sample.secret) Sample.colliding v :=
    aborts_of_run hrun
  rcases (faults_change_nothing Sample.facade Sample.secret).right.left (.refresh Sample.secret)
    Sample.colliding v (Or.inl rfl) haborts with ⟨hstore, htrail, _⟩
  exact ⟨v, haborts, hstore, htrail⟩

end Service

end SessionAuth
