import SessionAuth.Proofs.Service.Endings
import SessionAuth.Proofs.Service.Moments
import SessionAuth.Proofs.Service.Withdrawal
import SessionAuth.Proofs.Session.Vouching

/-!
# Pairs of credentials

A login or a refresh that succeeds hands out two credentials.  The one is a secret, of which the
table keeps a record, and the other is a token, which nobody keeps.  Both are made of what the
request has read and drawn, and both speak of one subject and one family.
-/

namespace SessionAuth

open Time Refresh

namespace Service

variable {f : Session.Facade}

/-! # The turns of a login and of a refresh -/

section Turns

open SessionAuth.Flow

variable {turns : List Turn}

theorem yields_issueAccess {i : Access.Issuer} {subject : SubjectId} {admin : Bool}
    {family : Option FamilyId} {access : Access.Credential} :
    (Session.issueAccess i subject admin family).Yields turns access ↔
      ∃ t id, turns = [⟨.clock, t⟩, ⟨.freshId, id.uuid⟩] ∧
        i.issueAccess t id subject admin family = .ok access := by
  unfold Session.issueAccess
  simp only [yields_now_bind, yields_newId_bind]
  constructor
  · intro h
    rcases h with ⟨t, _, rfl, id, _, rfl, hissue⟩
    cases haccess : i.issueAccess t id subject admin family with
    | error e =>
        rw [haccess] at hissue
        exact absurd hissue not_yields_halt
    | ok credential =>
        rw [haccess] at hissue
        rcases hissue with ⟨rfl, rfl⟩
        exact ⟨t, id, rfl, haccess⟩
  · intro h
    rcases h with ⟨t, id, rfl, haccess⟩
    refine ⟨t, _, rfl, id, _, rfl, ?_⟩
    rw [haccess]
    exact ⟨rfl, rfl⟩

theorem yields_issueRefresh {i : Access.Issuer} {subject : SubjectId} {family : FamilyId}
    {generation : Int} {issued : Secret × Record} :
    (Session.issueRefresh i subject family generation).Yields turns issued ↔
      ∃ secret t id, turns = [⟨.freshSecret, secret⟩, ⟨.clock, t⟩, ⟨.freshId, id.uuid⟩] ∧
        issued = (secret, i.issueRefresh t id secret subject family generation) := by
  unfold Session.issueRefresh
  constructor
  · intro h
    rcases yields_perform_bind.mp h with ⟨secret, _, rfl, hclock⟩
    rcases yields_now_bind.mp hclock with ⟨t, _, rfl, hid⟩
    rcases yields_newId_bind.mp hid with ⟨id, _, rfl, rfl, rfl⟩
    exact ⟨secret, t, id, rfl, rfl⟩
  · intro h
    rcases h with ⟨secret, t, id, rfl, rfl⟩
    refine yields_perform_bind.mpr ⟨secret, _, rfl, ?_⟩
    refine yields_now_bind.mpr ⟨t, _, rfl, ?_⟩
    exact yields_newId_bind.mpr ⟨id, [], rfl, rfl, rfl⟩

/-- The credentials that some turns have made for a subject, and the record of the secret. -/
structure Makes (i : Access.Issuer) (turns : List Turn) (x : Subject) (generation : Int)
    (r : Record) (tokens : Session.Tokens) : Prop where
  subject : tokens.subject = x.id
  issued : ∃ t id, r = i.issueRefresh t id tokens.refresh x.id tokens.family generation
  expires : tokens.refreshExpiresAt = r.expiresAt
  access : ∃ t id, ⟨.clock, t⟩ ∈ turns ∧
    i.issueAccess t id x.id x.admin (some tokens.family) = .ok tokens.access

theorem Makes.mono {i : Access.Issuer} {more : List Turn} {x : Subject} {generation : Int}
    {r : Record} {tokens : Session.Tokens} (h : Makes i turns x generation r tokens)
    (hmore : turns ⊆ more) : Makes i more x generation r tokens := by
  rcases h.access with ⟨t, id, hclock, haccess⟩
  exact ⟨h.subject, h.issued, h.expires, t, id, hmore hclock, haccess⟩

theorem yields_rejectLogin {subject : Option SubjectId} {failure : Failure} {reason : String}
    {a : Except Failure Session.Tokens}
    (h : (Session.Facade.rejectLogin subject failure reason).Yields turns a) :
    a = .error failure ∧ ∃ id t, turns = [⟨.notice (.loginRejected subject reason), ()⟩,
      ⟨.freshId, id.uuid⟩, ⟨.clock, t⟩, ⟨.audit ⟨id, .loginFailed, subject, .failure,
        .object [("reason", .string reason)], t⟩, ()⟩] := by
  unfold Session.Facade.rejectLogin at h
  rcases yields_note_bind.mp h with ⟨_, rfl, hrest⟩
  rcases yields_bind.mp hrest with ⟨_, _, _, rfl, hreport, rfl, rfl⟩
  rcases yields_report.mp hreport with ⟨id, t, rfl⟩
  exact ⟨rfl, id, t, rfl⟩

theorem yields_openSession {x : Subject} {a : Except Failure Session.Tokens}
    (h : (f.openSession x).Yields turns a) :
    ∃ tokens r t, a = .ok tokens ∧ Makes f.issuer turns x 0 r tokens ∧
      Turn.calls turns = [opened r, Turn.answered (.recordAuthentication x.id t) ()] ∧
      Reported turns .loginSucceeded (some tokens.subject) .success
        [("family_id", .string tokens.family.text)] := by
  unfold Session.Facade.openSession at h
  rcases yields_newId_bind.mp h with ⟨family, _, rfl, hsign⟩
  rcases yields_bind.mp hsign with ⟨access, _, _, rfl, hsigned, hissue⟩
  rcases yields_bind.mp hissue with ⟨⟨secret, r⟩, _, _, rfl, hissued, hinsert⟩
  rcases yields_call_bind.mp hinsert with ⟨_, _, rfl, hclock⟩
  rcases yields_now_bind.mp hclock with ⟨t, _, rfl, hremember⟩
  rcases yields_call_bind.mp hremember with ⟨_, _, rfl, hnote⟩
  rcases yields_note_bind.mp hnote with ⟨_, rfl, hevent⟩
  rcases yields_bind.mp hevent with ⟨_, _, _, rfl, hreport, rfl, rfl⟩
  rcases yields_report.mp hreport with ⟨eventId, t₂, rfl⟩
  rcases yields_issueAccess.mp hsigned with ⟨t₀, tokenId, rfl, haccess⟩
  rcases yields_issueRefresh.mp hissued with ⟨_, t₁, id, rfl, hrecord⟩
  cases hrecord
  refine ⟨_, _, t, rfl, ?_, rfl, eventId, t₂, by simp⟩
  constructor
  case subject => rfl
  case issued => exact ⟨t₁, id, rfl⟩
  case expires => rfl
  case access => exact ⟨t₀, tokenId, by simp, haccess⟩

/-- How a login goes on that has read an account or none for its identifier. -/
inductive Examines (f : Session.Facade) (identifier password : String) (turns : List Turn)
    (a : Except Failure Session.Tokens) : Option Subject → Prop where
  | unknown {rest : List Turn} (hturns : turns = named identifier none :: rest)
      (hrest : (Session.Facade.rejectLogin none .invalidCredential
        "unknown_identifier").Yields rest a) : Examines f identifier password turns a none
  | mismatched {x : Subject} {v : Password.Verification} {rest : List Turn}
      (hturns : turns =
        named identifier (some x) :: ⟨.verify password x.passwordHash, v⟩ :: rest)
      (hdiffers : v ≠ .same)
      (hrest : (Session.Facade.rejectLogin (some x.id) .invalidCredential
        "wrong_password").Yields rest a) : Examines f identifier password turns a (some x)
  | barred {x : Subject} {rest : List Turn}
      (hturns : turns =
        named identifier (some x) :: verified password x.passwordHash :: rest)
      (hunusable : x.isUsable = false)
      (hrest : (Session.Facade.rejectLogin (some x.id) .accountInactive
        "account_inactive").Yields rest a) : Examines f identifier password turns a (some x)
  | admitted {x : Subject} {rest : List Turn}
      (hturns : turns =
        named identifier (some x) :: verified password x.passwordHash :: rest)
      (husable : x.isUsable = true) (hrest : (f.openSession x).Yields rest a) :
      Examines f identifier password turns a (some x)

theorem examines_of_yields {identifier password : String} {a : Except Failure Session.Tokens}
    (h : (f.login identifier password).Yields turns a) :
    ∃ y, Examines f identifier password turns a y := by
  unfold Session.Facade.login at h
  rcases yields_call_bind.mp h with ⟨y, _, rfl, hnamed⟩
  refine ⟨y, ?_⟩
  cases y with
  | none => exact Examines.unknown rfl hnamed
  | some x =>
      rcases yields_perform_bind.mp hnamed with ⟨v, _, rfl, hchecks⟩
      split at hchecks
      case isTrue hdiffers =>
          refine Examines.mismatched rfl ?_ hchecks
          rintro rfl
          cases hdiffers
      case isFalse haccepts =>
          simp only [Password.Verification.accepts, Bool.not_eq_true, Bool.not_eq_false',
            beq_iff_eq] at haccepts
          subst haccepts
          split at hchecks
          case isTrue hbarred => exact Examines.barred rfl (by simpa using hbarred) hchecks
          case isFalse husable => exact Examines.admitted rfl (by simpa using husable) hchecks

/-- How a login ends that has read an account or none for its identifier. -/
inductive Enters (f : Session.Facade) (identifier password : String) (turns : List Turn) :
    Option Subject → Except Failure Session.Tokens → Prop where
  | admitted {x : Subject} {tokens : Session.Tokens} {r : Record} {t : Instant}
      {rest : List Turn}
      (hturns : turns =
        named identifier (some x) :: verified password x.passwordHash :: rest)
      (husable : x.isUsable = true) (hmakes : Makes f.issuer turns x 0 r tokens)
      (hcalls : Turn.calls rest =
        [opened r, Turn.answered (.recordAuthentication x.id t) ()]) :
      Enters f identifier password turns (some x) (.ok tokens)
  | refused {y : Option Subject} {failure : Failure} (hread : named identifier y ∈ turns)
      (hreason : ∀ x, y = some x → x.isUsable = true →
        ∃ v, ⟨.verify password x.passwordHash, v⟩ ∈ turns ∧ v ≠ .same) :
      Enters f identifier password turns y (.error failure)

theorem yields_login {identifier password : String} {a : Except Failure Session.Tokens}
    (h : (f.login identifier password).Yields turns a) :
    ∃ y, Enters f identifier password turns y a := by
  rcases examines_of_yields h with ⟨y, hexamines⟩
  refine ⟨y, ?_⟩
  cases hexamines with
  | unknown hturns hrest =>
      cases (yields_rejectLogin hrest).left
      refine Enters.refused (by simp [hturns]) ?_
      rintro x ⟨⟩
  | mismatched hturns hdiffers hrest =>
      cases (yields_rejectLogin hrest).left
      refine Enters.refused (by simp [hturns]) ?_
      rintro x ⟨⟩ _
      exact ⟨_, by simp [hturns], hdiffers⟩
  | barred hturns hunusable hrest =>
      cases (yields_rejectLogin hrest).left
      refine Enters.refused (by simp [hturns]) ?_
      rintro x ⟨⟩ husable
      rw [husable] at hunusable
      cases hunusable
  | admitted hturns husable hrest =>
      rcases yields_openSession hrest with ⟨tokens, r, t, rfl, hmakes, hcalls, _⟩
      refine Enters.admitted hturns husable (hmakes.mono ?_) hcalls
      intro turn hturn
      simp [hturns, hturn]

theorem yields_exchange {x : Subject} {q : Record} {o : Session.Rotated}
    (h : (Session.exchange f.issuer x q).Yields turns (.ok o)) :
    ∃ r generation, Session.nextGeneration q.generation = .ok generation ∧
      Turn.calls turns = [exchanged q.id r .applied] ∧ o.family = q.family ∧ o.previous = q.id ∧
      o.generation = generation ∧ Makes f.issuer turns x generation r
        ⟨o.subject, o.family, o.access, f.issuer.accessSeconds, o.secret, o.expiresAt⟩ := by
  unfold Session.exchange at h
  rcases yields_bind.mp h with ⟨access, _, _, rfl, hsigned, hnext⟩
  rcases yields_ofExcept_bind.mp hnext with ⟨generation, hgeneration, hissue⟩
  rcases yields_bind.mp hissue with ⟨⟨secret, r⟩, _, _, rfl, hissued, hexchange⟩
  rcases yields_call_bind.mp hexchange with ⟨outcome, _, rfl, houtcome⟩
  rcases yields_issueAccess.mp hsigned with ⟨t₀, tokenId, rfl, haccess⟩
  rcases yields_issueRefresh.mp hissued with ⟨_, t₁, id, rfl, hrecord⟩
  cases hrecord
  cases outcome with
  | applied =>
      rcases yields_note_bind.mp houtcome with ⟨_, rfl, rfl, hdone⟩
      cases hdone
      refine ⟨_, generation, hgeneration, rfl, rfl, rfl, rfl, ?_⟩
      constructor
      case subject => rfl
      case issued => exact ⟨t₁, id, rfl⟩
      case expires => rfl
      case access => exact ⟨t₀, tokenId, by simp, haccess⟩
  | familyRevoked => cases houtcome.right
  | notFound => cases houtcome.right
  | stateMismatch state =>
      cases state with
      | active => cases houtcome.right
      | revoked => cases houtcome.right
      | consumed =>
          rcases yields_bind.mp houtcome with ⟨_, _, _, _, _, hdone⟩
          cases hdone.right

/-- What a refresh that succeeds has read and made. -/
structure Renews (f : Session.Facade) (p : Secret) (turns : List Turn) (q : Record) (x : Subject)
    (r : Record) (tokens : Session.Tokens) : Prop where
  calls : Turn.calls turns =
    [found p (some q), knows q.subject (some x), exchanged q.id r .applied]
  usable : x.isUsable = true
  family : tokens.family = q.family
  makes : ∃ generation, Session.nextGeneration q.generation = .ok generation ∧
    Makes f.issuer turns x generation r tokens

theorem yields_advance {q : Record} {o : Session.Rotated}
    (h : (Session.advance f.issuer q).Yields turns (.ok o)) :
    ∃ x rest, turns = knows q.subject (some x) :: rest ∧ x.isUsable = true ∧
      (Session.exchange f.issuer x q).Yields rest (.ok o) := by
  unfold Session.advance at h
  rcases yields_call_bind.mp h with ⟨y, rest, rfl, hchecks⟩
  cases y with
  | none =>
      rcases yields_bind.mp hchecks with ⟨_, _, _, _, _, hdone⟩
      cases hdone.right
  | some x =>
      cases husable : x.isUsable with
      | true =>
          simp only [husable, if_true] at hchecks
          exact ⟨x, rest, rfl, husable, hchecks⟩
      | false =>
          simp only [husable, Bool.false_eq_true, if_false] at hchecks
          rcases yields_bind.mp hchecks with ⟨_, _, _, _, _, hdone⟩
          cases hdone.right

theorem yields_rotate {p : Secret} {o : Session.Rotated}
    (h : (Session.rotate f.issuer p).Yields turns (.ok o)) :
    ∃ q t rest, turns = found p (some q) :: ⟨.clock, t⟩ :: rest ∧
      (Session.advance f.issuer q).Yields rest (.ok o) := by
  unfold Session.rotate Session.findPresented at h
  rcases yields_bind.mp h with ⟨presented, _, _, rfl, hfound, hchecks⟩
  rcases yields_call_bind.mp hfound with ⟨y, _, rfl, rfl, rfl⟩
  cases hpresented : y.filter (fun r => r.belongsTo p) with
  | none =>
      rw [hpresented] at hchecks
      cases hchecks.right
  | some q =>
      rw [hpresented] at hchecks
      rcases Option.filter_eq_some_iff.mp hpresented with ⟨rfl, _⟩
      have hread : ∀ {state : State} {rest : List Turn}, (now >>= fun t =>
          if q.isExpired t then
            (pure (.error (.expired q.subject q.family)) :
              Flow (Except Session.Rejection Session.Rotated))
          else if state = .consumed then
            Session.revokeForReuse q >>= fun j => pure (.error j)
          else Session.advance f.issuer q).Yields rest (.ok o) →
          ∃ t more, rest = ⟨.clock, t⟩ :: more ∧
            (Session.advance f.issuer q).Yields more (.ok o) := by
        intro state rest hrest
        rcases yields_now_bind.mp hrest with ⟨t, more, rfl, hmore⟩
        split at hmore
        · cases hmore.right
        · split at hmore
          · rcases yields_bind.mp hmore with ⟨_, _, _, _, _, hdone⟩
            cases hdone.right
          · exact ⟨t, more, rfl, hmore⟩
      dsimp only at hchecks
      cases hstate : q.state with
      | revoked =>
          rw [hstate] at hchecks
          rcases yields_note_bind.mp hchecks with ⟨_, _, hdone⟩
          cases hdone.right
      | active =>
          rw [hstate] at hchecks
          rcases hread hchecks with ⟨t, more, rfl, hmore⟩
          exact ⟨q, t, more, rfl, hmore⟩
      | consumed =>
          rw [hstate] at hchecks
          rcases hread hchecks with ⟨t, more, rfl, hmore⟩
          exact ⟨q, t, more, rfl, hmore⟩

theorem yields_refresh {p : Secret} {tokens : Session.Tokens}
    (h : (f.refresh p).Yields turns (.ok tokens)) :
    ∃ q x r, Renews f p turns q x r tokens ∧
      Reported turns .tokenRefreshed (some tokens.subject) .success
        [("family_id", .string tokens.family.text), ("generation", .int r.generation),
          ("previous_record_id", .string q.id.text)] := by
  unfold Session.Facade.refresh at h
  rcases yields_bind.mp h with ⟨result, xs, _, rfl, hrotate, hrest⟩
  cases result with
  | error rejection =>
      rcases yields_bind.mp hrest with ⟨_, _, _, _, _, hdone⟩
      cases hdone.right
  | ok o =>
      rcases yields_bind.mp hrest with ⟨_, _, _, rfl, hreport, rfl, htokens⟩
      cases htokens
      rcases yields_report.mp hreport with ⟨id, instant, rfl⟩
      rcases yields_rotate hrotate with ⟨q, t, _, rfl, hadvance⟩
      rcases yields_advance hadvance with ⟨x, rest, rfl, husable, hexchange⟩
      rcases yields_exchange hexchange with
        ⟨r, generation, hgeneration, hcalls, hfamily, hprevious, hnext, hmakes⟩
      have hissued : o.generation = r.generation := by
        rcases hmakes.issued with ⟨_, _, rfl⟩
        exact hnext
      refine ⟨q, x, r, ?_, id, instant, by simp [hprevious, hissued]⟩
      constructor
      case calls =>
          have hrest : Turn.calls rest = [exchanged q.id r .applied] := hcalls
          change found p (some q) :: knows q.subject (some x) :: Turn.calls (rest ++ _) = _
          rw [Turn.calls_append, hrest]
          rfl
      case usable => exact husable
      case family => exact hfamily
      case makes =>
          refine ⟨generation, hgeneration, hmakes.mono ?_⟩
          intro turn hturn
          simp [hturn]

end Turns

end Service

end SessionAuth
