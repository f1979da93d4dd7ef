import SessionAuth.Proofs.Permission.Decision
import SessionAuth.Proofs.Service.Atomicity

/-!
# How often a request reports

A request looks up, draws and writes in silence, and reports at its very end, if at all.  So it
reports once at most, and one that halts has not reported anything.
-/

namespace SessionAuth

namespace Turn

def reports (turn : Turn) : Bool :=
  turn.event?.isSome

theorem filterMap_event?_eq_nil {turns : List Turn} (h : ∀ turn ∈ turns, turn.reports = false) :
    turns.filterMap event? = [] := by
  rw [List.filterMap_eq_nil_iff]
  intro turn hmem
  exact Option.not_isSome_iff_eq_none.mp (by simpa [reports] using h turn hmem)

theorem filterMap_event?_filter (turns : List Turn) :
    (turns.filter reports).filterMap event? = turns.filterMap event? := by
  induction turns with
  | nil => rfl
  | cons turn turns ih =>
      cases hevent : turn.event? with
      | none => simp [reports, hevent, ih]
      | some event => simp [reports, hevent, ih]

end Turn

namespace Flow

variable {α : Type} {x : Flow α} {turns : List Turn}

theorem outward_reports : Outward Turn.reports where
  own := by
    intro e r he
    cases e with
    | audit => cases he
    | _ => rfl
  failed := by
    intro c e
    rfl

/-- A flow that reports nothing. -/
abbrev Silent (x : Flow α) : Prop :=
  Avoids Turn.reports x

/-- A flow that reports once at most, and does not halt any more when it has reported. -/
abbrev Definite (x : Flow α) : Prop :=
  Commits Turn.reports Turn.reports x

theorem Silent.filterMap_event? {a : α} (hx : Silent x) (h : x.Yields turns a) :
    turns.filterMap Turn.event? = [] :=
  Turn.filterMap_event?_eq_nil (Avoids.of_yields hx h)

theorem Definite.filterMap_event?_of_halts {e : Halt} (hx : Definite x) (h : x.Halts turns e) :
    turns.filterMap Turn.event? = [] :=
  Turn.filterMap_event?_eq_nil (Commits.of_halts hx h)

theorem Definite.filterMap_event? {a : α} {kind : Audit.Kind} {subject : Option SubjectId}
    {outcome : Audit.Outcome} {context : List (String × JsonValue)} (hx : Definite x)
    (h : x.Yields turns a) (hreported : Reported turns kind subject outcome context) :
    ∃ id t, turns.filterMap Turn.event? = [⟨id, kind, subject, outcome, .object context, t⟩] := by
  rcases hreported with ⟨id, t, hmem⟩
  refine ⟨id, t, ?_⟩
  rw [← Turn.filterMap_event?_filter, Commits.filter_eq hx h hmem rfl]
  rfl

theorem silent_call (c : Store.Call) : Silent (call c) :=
  avoids_call outward_reports (fun _ => rfl)

theorem silent_perform {e : Effect} (he : e.isOwn = true) : Silent (perform e) :=
  (calm_perform outward_reports he).avoids

theorem silent_note (n : Notice) : Silent (note n) :=
  silent_perform (e := .notice n) rfl

theorem definite_report (kind : Audit.Kind) (subject : Option SubjectId) (outcome : Audit.Outcome)
    (context : List (String × JsonValue)) : Definite (report kind subject outcome context) :=
  commits_report outward_reports kind subject outcome context

end Flow

namespace Session

open SessionAuth.Flow

/-! # Rotation -/

section Rotation

variable (i : Access.Issuer) (r : Refresh.Record) (p : Refresh.Secret)

theorem silent_revokeForReuse : Silent (revokeForReuse r) := by
  unfold revokeForReuse
  apply (silent_call _).bind
  intro records
  apply (silent_note _).bind
  intro _
  trivial

theorem silent_revokeForSubject : Silent (revokeForSubject r) := by
  unfold revokeForSubject
  apply (silent_call _).bind
  intro records
  apply (silent_note _).bind
  intro _
  trivial

theorem silent_exchange (x : Subject) : Silent (exchange i x r) := by
  unfold exchange
  apply (avoids_issueAccess i outward_reports _ _ _).bind
  intro access
  apply (avoids_ofExcept _).bind
  intro generation
  apply (calm_issueRefresh i outward_reports _ _ _).avoids.bind
  rintro ⟨secret, successor⟩
  apply (silent_call _).bind
  intro outcome
  cases outcome with
  | applied => exact (silent_note _).bind (fun _ => trivial)
  | familyRevoked => trivial
  | notFound => trivial
  | stateMismatch current =>
      cases current with
      | active => trivial
      | revoked => trivial
      | consumed => exact (silent_revokeForReuse r).bind (fun _ => trivial)

theorem silent_advance : Silent (advance i r) := by
  have hbarred : Silent (revokeForSubject r >>= fun j =>
      (pure (.error j) : Flow (Except Rejection Rotated))) :=
    (silent_revokeForSubject r).bind (fun _ => trivial)
  unfold advance
  apply (silent_call _).bind
  intro y
  cases y with
  | none => exact hbarred
  | some x =>
      dsimp only
      split
      · exact silent_exchange i r x
      · exact hbarred

theorem silent_rotate : Silent (rotate i p) := by
  unfold rotate
  apply (avoids_findPresented outward_reports p (fun _ => rfl)).bind
  intro y
  cases y with
  | none => trivial
  | some r =>
      dsimp only
      split
      · exact (silent_note _).bind (fun _ => trivial)
      · apply (silent_perform (e := .clock) rfl).bind
        intro now
        split
        · trivial
        · split
          · exact (silent_revokeForReuse r).bind (fun _ => trivial)
          · exact silent_advance i r

theorem silent_revokePresented (reason : Refresh.Reason) : Silent (revokePresented p reason) := by
  unfold revokePresented
  apply (avoids_findPresented outward_reports p (fun _ => rfl)).bind
  intro y
  cases y with
  | none => trivial
  | some r => exact (silent_call _).bind (fun _ => trivial)

theorem silent_revokeSubject (subject : SubjectId) (reason : Refresh.Reason) :
    Silent (revokeSubject subject reason) := by
  unfold revokeSubject
  apply (silent_call _).bind
  intro families
  apply (silent_note _).bind
  intro _
  trivial

end Rotation

/-! # Sessions -/

section Sessions

variable (f : Facade) (subject : SubjectId)

theorem definite_rejectLogin (subject : Option SubjectId) (failure : Failure) (reason : String) :
    Definite (Facade.rejectLogin subject failure reason) := by
  unfold Facade.rejectLogin
  apply Commits.after (silent_note _)
  intro _
  exact (definite_report _ _ _ _).followed (fun _ => trivial)

theorem definite_openSession (x : Subject) : Definite (f.openSession x) := by
  unfold Facade.openSession
  apply Commits.after (calm_newId outward_reports .family).avoids
  intro family
  apply Commits.after (avoids_issueAccess f.issuer outward_reports _ _ _)
  intro access
  apply Commits.after (calm_issueRefresh f.issuer outward_reports _ _ _).avoids
  rintro ⟨secret, record⟩
  apply Commits.after (silent_call _)
  intro _
  apply Commits.after (silent_perform (e := .clock) rfl)
  intro now
  apply Commits.after (silent_call _)
  intro _
  apply Commits.after (silent_note _)
  intro _
  exact (definite_report _ _ _ _).followed (fun _ => trivial)

theorem definite_login (identifier password : String) :
    Definite (f.login identifier password) := by
  unfold Facade.login
  apply Commits.after (silent_call _)
  intro y
  cases y with
  | none => exact definite_rejectLogin _ _ _
  | some x =>
      apply Commits.after (silent_perform (e := .verify password x.passwordHash) rfl)
      intro v
      split
      · exact definite_rejectLogin _ _ _
      · split
        · exact definite_rejectLogin _ _ _
        · exact definite_openSession f x

theorem definite_refresh (p : Refresh.Secret) : Definite (f.refresh p) := by
  unfold Facade.refresh
  apply Commits.after (silent_rotate f.issuer p)
  intro result
  cases result with
  | ok o => exact (definite_report _ _ _ _).followed (fun _ => trivial)
  | error rejection =>
      have hrejected : Definite (Facade.reportRejection rejection) := by
        cases rejection <;> exact definite_report _ _ _ _
      exact hrejected.followed (fun _ => trivial)

theorem definite_logout (p : Refresh.Secret) : Definite (Facade.logout p) := by
  unfold Facade.logout
  apply Commits.after (silent_revokePresented p .logout)
  intro y
  cases y with
  | none => exact (silent_note _).commits
  | some revoked =>
      apply Commits.after (silent_note _)
      intro _
      exact definite_report _ _ _ _

theorem definite_rejectChange (failure : Failure) :
    Definite (Facade.rejectChange subject failure) := by
  unfold Facade.rejectChange
  apply Commits.after (silent_note _)
  intro _
  exact (definite_report _ _ _ _).followed (fun _ => trivial)

theorem definite_replacePassword (new : String) : Definite (f.replacePassword subject new) := by
  unfold Facade.replacePassword
  apply Commits.after (silent_perform (e := .freshSalt) rfl)
  intro salt
  apply Commits.after (silent_revokeSubject subject _)
  intro before
  apply Commits.after (silent_call _)
  intro _
  apply Commits.after (silent_revokeSubject subject _)
  intro families
  apply Commits.after (silent_note _)
  intro _
  exact (definite_report _ _ _ _).followed (fun _ => trivial)

theorem definite_changePassword (current new : String) :
    Definite (f.changePassword subject current new) := by
  unfold Facade.changePassword
  apply Commits.after (silent_call _)
  intro y
  cases y with
  | none => exact definite_rejectChange subject _
  | some x =>
      apply Commits.after (silent_perform (e := .verify current x.passwordHash) rfl)
      intro v
      split
      · exact definite_rejectChange subject _
      · split
        · exact definite_rejectChange subject _
        · split
          · exact definite_rejectChange subject _
          · split
            · exact definite_rejectChange subject _
            · exact definite_replacePassword f subject new

theorem definite_revokeAll : Definite (Facade.revokeAll subject) := by
  unfold Facade.revokeAll
  apply Commits.after (silent_revokeSubject subject _)
  intro families
  exact (definite_report _ _ _ _).followed (fun _ => trivial)

theorem silent_listSessions : Silent (Facade.listSessions subject) := by
  unfold Facade.listSessions
  apply (silent_call _).bind
  intro records
  apply (silent_perform (e := .clock) rfl).bind
  intro now
  trivial

theorem silent_authenticate (token : String) : Silent (f.authenticate token) := by
  unfold Facade.authenticate
  apply (silent_perform (e := .clock) rfl).bind
  intro now
  split
  · trivial
  · exact (silent_note _).bind (fun _ => trivial)
  · trivial

end Sessions

end Session

/-! # Permissions -/

namespace Permission

open SessionAuth.Flow

section Decisions

variable (subject : SubjectId) (resource : ResourceId) (required : Level)

theorem silent_liveResource : Silent (liveResource resource) :=
  (silent_call _).bind (fun _ => trivial)

theorem silent_levelOn (r : Resource) : Silent (levelOn r subject) := by
  unfold levelOn
  apply (silent_call _).bind
  intro g
  split
  · trivial
  · split
    · apply (silent_call _).bind
      intro history
      split <;> trivial
    · trivial

theorem silent_effectiveLevel : Silent (effectiveLevel subject resource) := by
  unfold effectiveLevel
  apply (silent_liveResource resource).bind
  intro y
  cases y with
  | none => trivial
  | some r => exact silent_levelOn subject r

theorem silent_decideHeld (held : Option Level) : Silent (decideHeld subject required held) := by
  unfold decideHeld
  split
  · trivial
  · have hknown : Silent (isAdministrator subject) := (silent_call _).bind (fun _ => trivial)
    apply hknown.bind
    intro admin
    split <;> trivial

theorem definite_reportDecision (d : Decision) (reason : Option String) :
    Definite (reportDecision subject resource required d reason) := by
  cases d with
  | granted level => exact definite_report _ _ _ _
  | denied held => exact definite_report _ _ _ _
  | adminOverride => exact Commits.after (silent_note _) (fun _ => definite_report _ _ _ _)

theorem definite_decide : Definite (decide subject resource required) := by
  unfold decide
  apply Commits.after (silent_liveResource resource)
  intro y
  cases y with
  | none => exact (definite_reportDecision _ _ _ _ _).followed (fun _ => trivial)
  | some r =>
      apply Commits.after (silent_levelOn subject r)
      intro held
      apply Commits.after (silent_decideHeld subject required held)
      intro d
      exact (definite_reportDecision _ _ _ _ _).followed (fun _ => trivial)

end Decisions

end Permission

/-! # All requests -/

namespace Service

open SessionAuth.Flow

namespace Request

/-- A request for a decision about an access, with what it makes of the decision. -/
inductive Poses : (q : Request) → SubjectId → ResourceId → Level →
    (Permission.Decision → q.Reply) → Prop where
  | decide {subject : SubjectId} {resource : ResourceId} {required : Level} :
      Poses (decide subject resource required) subject resource required id
  | authorize {subject : SubjectId} {resource : ResourceId} {required : Level} :
      Poses (authorize subject resource required) subject resource required
        Permission.Decision.isAllowed
  | require {subject : SubjectId} {resource : ResourceId} {required : Level} :
      Poses (require subject resource required) subject resource required Permission.answerOf
  | manageGrants {subject : SubjectId} {resource : ResourceId} :
      Poses (manageGrants subject resource) subject resource .owner Permission.answerOf

inductive Unheard : Request → Prop where
  | listSessions {subject : SubjectId} : Unheard (listSessions subject)
  | authenticate {token : String} : Unheard (authenticate token)
  | effectiveLevel {subject : SubjectId} {resource : ResourceId} :
      Unheard (effectiveLevel subject resource)

theorem Unheard.silent {q : Request} (h : q.Unheard) (f : Session.Facade) : Silent (q.flow f) := by
  cases h with
  | listSessions => exact Session.silent_listSessions _
  | authenticate => exact Session.silent_authenticate f _
  | effectiveLevel => exact Permission.silent_effectiveLevel _ _

theorem Poses.exists_yields {q : Request} {subject : SubjectId} {resource : ResourceId}
    {required : Level} {answer : Permission.Decision → q.Reply}
    (h : q.Poses subject resource required answer) {f : Session.Facade} {turns : List Turn}
    {a : q.Reply} (hyields : (q.flow f).Yields turns a) :
    ∃ d, (Permission.decide subject resource required).Yields turns d ∧ a = answer d := by
  cases h with
  | decide => exact ⟨a, hyields, rfl⟩
  | _ =>
      rcases yields_bind.mp hyields with ⟨d, xs, _, rfl, hdecided, rfl, rfl⟩
      exact ⟨d, by rw [List.append_nil]; exact hdecided, rfl⟩

theorem definite (f : Session.Facade) (q : Request) : Definite (q.flow f) := by
  cases q with
  | login identifier password => exact Session.definite_login f identifier password
  | refresh p => exact Session.definite_refresh f p
  | logout p => exact Session.definite_logout p
  | changePassword subject current new =>
    exact Session.definite_changePassword f subject current new
  | revokeAll subject => exact Session.definite_revokeAll subject
  | listSessions subject => exact (Unheard.listSessions.silent f).commits
  | authenticate token => exact (Unheard.authenticate.silent f).commits
  | effectiveLevel subject resource => exact (Unheard.effectiveLevel.silent f).commits
  | decide subject resource required => exact Permission.definite_decide subject resource required
  | authorize subject resource required =>
      exact (Permission.definite_decide subject resource required).followed (fun _ => trivial)
  | require subject resource required =>
      exact (Permission.definite_decide subject resource required).followed (fun _ => trivial)
  | manageGrants subject resource =>
      exact (Permission.definite_decide subject resource .owner).followed (fun _ => trivial)

end Request

end Service

end SessionAuth
