import SessionAuth.Proofs.Service.Scripts

/-!
# Requests follow their scripts

Each part of a flow is shown once to make the calls that its script allows and to end as the
script says.  The flow of a request is put together from the parts.
-/

namespace SessionAuth

open Time

namespace Service

open SessionAuth.Flow

/-! # Issuing -/

section Issuing

variable {asks : List Turn → Effect → Prop} {past : List Turn} (hown : OwnFree asks)
  (i : Access.Issuer) (subject : SubjectId)
include hown

theorem keeps_issueAccess (admin : Bool) (family : Option FamilyId) :
    Keeps asks (fun later _ => Turn.Idles past later) past
      (Session.issueAccess i subject admin family) := by
  unfold Session.issueAccess
  apply (keeps_now hown).bind
  intro _ t heq
  subst heq
  apply (keeps_newId hown .accessToken).bind
  intro _ id heq
  subst heq
  apply (keeps_ofExcept _).mono
  intro _ a h
  rcases h with ⟨rfl, _⟩
  exact ((Turn.Idles.refl past).turn (e := .clock) rfl t).turn (e := .freshId) rfl id.uuid

theorem keeps_issueRefresh (family : FamilyId) (generation : Int) :
    Keeps asks
      (fun later x => Turn.Idles past later ∧
        Issued i later subject family generation x.1 x.2) past
      (Session.issueRefresh i subject family generation) := by
  unfold Session.issueRefresh
  apply (keeps_perform hown (e := .freshSecret) rfl).bind
  intro _ secret heq
  subst heq
  apply (keeps_now hown).bind
  intro _ t heq
  subst heq
  apply (keeps_newId hown .record).bind
  intro _ id heq
  subst heq
  refine ⟨(((Turn.Idles.refl past).turn (e := .freshSecret) rfl secret).turn
    (e := .clock) rfl t).turn (e := .freshId) rfl id.uuid, ?_⟩
  apply Issued.mk
  · simp
  · simp
  · simp

end Issuing

/-! # Looking up and withdrawing -/

section Withdrawing

variable {asks : List Turn → Effect → Prop} {past : List Turn}

theorem keeps_findPresented (p : Refresh.Secret) (h : asks past (.store (.findByHash p.hash))) :
    Keeps asks
      (fun later r => ∃ a, later = past ++ [found p a] ∧ r = a.filter (fun r => r.belongsTo p))
      past (Session.findPresented p) := by
  unfold Session.findPresented
  apply (keeps_call h).bind
  intro _ a heq
  subst heq
  exact ⟨a, rfl, rfl⟩

variable (hown : OwnFree asks)
include hown

theorem keeps_revokeSubject (subject : SubjectId) (reason : Refresh.Reason)
    (h : asks past (.store (.revokeSubjectFamilies subject reason))) :
    Keeps asks
      (fun later families => Turn.Idles (past ++ [swept subject reason families]) later)
      past (Session.revokeSubject subject reason) := by
  unfold Session.revokeSubject
  apply (keeps_call h).bind
  intro _ families heq
  subst heq
  apply (keeps_note hown _).bind
  intro later _ hidle
  exact hidle

variable (r : Refresh.Record)

theorem keeps_revokeForReuse (h : asks past (.store (.revokeFamily r.family .reuseDetected))) :
    Keeps asks
      (fun later j => ∃ n, Turn.Idles (past ++ [withdrew r.family .reuseDetected n]) later ∧
        j = .reuseDetected r.subject r.family n)
      past (Session.revokeForReuse r) := by
  unfold Session.revokeForReuse
  apply (keeps_call h).bind
  intro _ n heq
  subst heq
  apply (keeps_note hown _).bind
  intro later _ hidle
  exact ⟨n, hidle, rfl⟩

theorem keeps_revokeForSubject (h : asks past (.store (.revokeFamily r.family .subjectRevoked))) :
    Keeps asks
      (fun later j => (∃ n, Turn.Idles (past ++ [withdrew r.family .subjectRevoked n]) later) ∧
        j = .subjectInactive r.subject r.family)
      past (Session.revokeForSubject r) := by
  unfold Session.revokeForSubject
  apply (keeps_call h).bind
  intro _ n heq
  subst heq
  apply (keeps_note hown _).bind
  intro later _ hidle
  exact ⟨⟨n, hidle⟩, rfl⟩

end Withdrawing

theorem calls_of_idles {past later rest : List Turn} {c : Store.Call} {r : c.Reply}
    (hidle : Turn.Idles (past ++ [Turn.answered c r]) later) (hcalls : Turn.calls past = rest) :
    Turn.calls later = rest ++ [Turn.answered c r] := by
  rw [hidle.calls_eq, Turn.calls_append, hcalls]
  rfl

theorem calls_answered {past rest : List Turn} {c : Store.Call} (r : c.Reply)
    (hcalls : Turn.calls past = rest) :
    Turn.calls (past ++ [Turn.answered c r]) = rest ++ [Turn.answered c r] :=
  calls_of_idles (Turn.Idles.refl _) hcalls

/-! # Rotation -/

section Rotation

variable (f : Session.Facade) (p : Refresh.Secret) {past : List Turn} {r : Refresh.Record}

theorem keeps_exchange {s : Subject}
    (hcalls : Turn.calls past = [found p (some r), knows r.subject (some s)])
    (hhash : r.belongsTo p = true) (hstate : r.state = .active) (husable : s.isUsable = true) :
    Keeps ((Request.refresh p).Allows f) (Rotates f.issuer p) past
      (Session.exchange f.issuer s r) := by
  have hown := Request.ownFree_allows f (.refresh p)
  unfold Session.exchange
  apply (keeps_issueAccess hown f.issuer s.id s.admin (some r.family)).bind
  intro _ access hsigned
  apply (keeps_ofExcept _).bind
  intro _ generation h
  rcases h with ⟨rfl, hgeneration⟩
  apply (keeps_issueRefresh hown f.issuer s.id r.family generation).bind
  intro before h hx
  rcases h with ⟨secret, next⟩
  rcases hx with ⟨hdrawn, hissued⟩
  have hbefore := (hsigned.trans hdrawn).calls_eq.trans hcalls
  apply (keeps_call (Request.Asks.exchange hbefore hstate husable hgeneration hissued)).bind
  intro _ o heq
  subst heq
  have hafter := calls_answered (c := .transition r.id .active .consumed (some next)) o hbefore
  cases o with
  | applied =>
      apply (keeps_note hown _).bind
      intro later _ hidle
      exact (Rotates.renewed hafter hhash hstate husable hgeneration
        (hissued.idles ⟨_, rfl⟩)).idles hidle
  | notFound => exact Rotates.late hafter hstate husable (by simp) (by simp) rfl
  | familyRevoked => exact Rotates.late hafter hstate husable (by simp) (by simp) rfl
  | stateMismatch state =>
      cases state with
      | active => exact Rotates.late hafter hstate husable (by simp) (by simp) rfl
      | revoked => exact Rotates.late hafter hstate husable (by simp) (by simp) rfl
      | consumed =>
          apply (keeps_revokeForReuse hown r (Request.Asks.race hafter)).bind
          intro later _ h
          rcases h with ⟨n, hidle, rfl⟩
          exact Rotates.raced (calls_of_idles hidle hafter) hhash hstate husable

theorem keeps_advance (hcalls : Turn.calls past = [found p (some r)])
    (hhash : r.belongsTo p = true) (hstate : r.state = .active) :
    Keeps ((Request.refresh p).Allows f) (Rotates f.issuer p) past
      (Session.advance f.issuer r) := by
  have hown := Request.ownFree_allows f (.refresh p)
  unfold Session.advance
  apply (keeps_call (Request.Asks.know hcalls hstate)).bind
  intro _ s heq
  subst heq
  have hafter := calls_answered (c := .findById r.subject) s hcalls
  have hbar : (∀ x ∈ s, x.isUsable = false) →
      Keeps ((Request.refresh p).Allows f) (Rotates f.issuer p)
        (past ++ [knows r.subject s])
        (Session.revokeForSubject r >>= fun j => pure (.error j)) := by
    intro husable
    apply (keeps_revokeForSubject hown r (Request.Asks.bar hafter husable)).bind
    intro later _ h
    rcases h with ⟨⟨n, hidle⟩, rfl⟩
    exact Rotates.unusable (calls_of_idles hidle hafter) hstate husable
  cases s with
  | none => exact hbar (by simp)
  | some s =>
      cases husable : s.isUsable with
      | true =>
          simp only [husable, if_true]
          exact keeps_exchange f p hafter hhash hstate husable
      | false =>
          simp only [husable, Bool.false_eq_true, if_false]
          exact hbar (by simpa using husable)

theorem keeps_rotate :
    Keeps ((Request.refresh p).Allows f) (Rotates f.issuer p) []
      (Session.rotate f.issuer p) := by
  have hown := Request.ownFree_allows f (.refresh p)
  unfold Session.rotate
  apply (keeps_findPresented p (Request.Asks.find rfl)).bind
  intro _ x h
  rcases h with ⟨a, rfl, rfl⟩
  cases hpresented : a.filter (fun r => r.belongsTo p) with
  | none => exact Rotates.unknown rfl hpresented
  | some r =>
      rcases Option.filter_eq_some_iff.mp hpresented with ⟨rfl, hhash⟩
      have hread (hne : r.state ≠ .revoked) :
          Keeps ((Request.refresh p).Allows f) (Rotates f.issuer p) [found p (some r)]
            (now >>= fun t =>
              if r.isExpired t then pure (.error (.expired r.subject r.family))
              else if r.state = .consumed then
                Session.revokeForReuse r >>= fun j => pure (.error j)
              else Session.advance f.issuer r) := by
        apply (keeps_now hown).bind
        intro _ t heq
        subst heq
        have hcalls : Turn.calls ([found p (some r)] ++ [⟨.clock, t⟩]) = [found p (some r)] := rfl
        cases hexpired : r.isExpired t with
        | true =>
            exact Rotates.expired rfl rfl hexpired
        | false =>
            rw [if_neg (by simp)]
            by_cases hconsumed : r.state = .consumed
            · rw [if_pos hconsumed]
              apply (keeps_revokeForReuse hown r (Request.Asks.reuse hcalls hconsumed)).bind
              intro later _ h
              rcases h with ⟨n, hidle, rfl⟩
              exact Rotates.reused (calls_of_idles hidle hcalls) hhash hconsumed
            · rw [if_neg hconsumed]
              have hactive : r.state = .active := by
                cases hstate : r.state with
                | active => rfl
                | consumed => exact absurd hstate hconsumed
                | revoked => exact absurd hstate hne
              exact keeps_advance f p hcalls hhash hactive
      dsimp only
      cases hstate : r.state with
      | revoked =>
          apply (keeps_note hown _).bind
          intro later _ hidle
          exact (Rotates.withdrawn rfl hstate).idles hidle
      | active =>
          rw [hstate] at hread
          exact hread (by simp)
      | consumed =>
          rw [hstate] at hread
          exact hread (by simp)

theorem keeps_reportRejection {asks : List Turn → Effect → Prop} (hown : OwnFree asks)
    (rejection : Session.Rejection) :
    Keeps asks (fun later _ => Turn.Idles past later) past
      (Session.Facade.reportRejection rejection) := by
  unfold Session.Facade.reportRejection
  cases rejection with
  | reuseDetected subject family n => exact keeps_report hown _ _ _ _
  | unknown => exact keeps_report hown _ _ _ _
  | familyRevoked subject family => exact keeps_report hown _ _ _ _
  | expired subject family => exact keeps_report hown _ _ _ _
  | subjectInactive subject family => exact keeps_report hown _ _ _ _

theorem keeps_refresh :
    Keeps ((Request.refresh p).Allows f) ((Request.refresh p).Ends f) [] (f.refresh p) := by
  have hown := Request.ownFree_allows f (.refresh p)
  unfold Session.Facade.refresh
  apply (keeps_rotate f p).bind
  intro past x hrotated
  cases x with
  | ok r =>
      apply (keeps_report hown _ _ _ _).bind
      intro later _ hidle
      exact ⟨.ok r, hrotated.idles hidle, rfl⟩
  | error rejection =>
      apply (keeps_reportRejection hown rejection).bind
      intro later _ hidle
      exact ⟨.error rejection, hrotated.idles hidle, rfl⟩

end Rotation

/-! # Logging in and out -/

section Login

variable (f : Session.Facade) (identifier password : String) {past : List Turn}

theorem keeps_rejectLogin {s : Option Subject} (subject : Option SubjectId) (failure : Failure)
    (reason : String) (hcalls : Turn.calls past = [named identifier s]) :
    Keeps ((Request.login identifier password).Allows f) (LogsIn f identifier password) past
      (Session.Facade.rejectLogin subject failure reason) := by
  have hown := Request.ownFree_allows f (.login identifier password)
  unfold Session.Facade.rejectLogin
  apply (keeps_note hown _).bind
  intro noted _ hnoted
  apply (keeps_report hown _ _ _ _).bind
  intro later _ hidle
  exact LogsIn.refused ((hnoted.trans hidle).calls_eq.trans hcalls)

theorem keeps_openSession {s : Subject} (hcalls : Turn.calls past = [named identifier (some s)])
    (hverified : verified password s.passwordHash ∈ past) (husable : s.isUsable = true) :
    Keeps ((Request.login identifier password).Allows f) (LogsIn f identifier password) past
      (f.openSession s) := by
  have hown := Request.ownFree_allows f (.login identifier password)
  unfold Session.Facade.openSession
  apply (keeps_newId hown .family).bind
  intro _ family heq
  subst heq
  have hnamed := (Turn.Idles.refl past).turn (e := .freshId) rfl family.uuid
  apply (keeps_issueAccess hown f.issuer s.id s.admin (some family)).bind
  intro _ access hsigned
  apply (keeps_issueRefresh hown f.issuer s.id family 0).bind
  intro before h hx
  rcases h with ⟨secret, record⟩
  rcases hx with ⟨hdrawn, hissued⟩
  have hidle := hnamed.trans (hsigned.trans hdrawn)
  have hbefore := hidle.calls_eq.trans hcalls
  apply (keeps_call (Request.Asks.enter hbefore (hidle.mem hverified) husable hissued)).bind
  intro _ h heq
  cases h
  subst heq
  have hopened := calls_answered (c := .insert record) () hbefore
  apply (keeps_now hown).bind
  intro _ t heq
  subst heq
  have htimed := (((Turn.Idles.refl _).turn (e := .clock) rfl t).calls_eq).trans hopened
  apply (keeps_call (Request.Asks.remember htimed)).bind
  intro _ h heq
  cases h
  subst heq
  have hafter := calls_answered (c := .recordAuthentication s.id t) () htimed
  apply (keeps_note hown _).bind
  intro _ _ hnoted
  apply (keeps_report hown _ _ _ _).bind
  intro later _ hreported
  have hend := hnoted.trans hreported
  refine LogsIn.opened (hend.calls_eq.trans hafter) (hend.mem ?_) husable (hissued.idles ?_)
  · exact List.mem_append_left _ (List.mem_append_left _ (List.mem_append_left _
      (hidle.mem hverified)))
  · rcases hend with ⟨more, rfl, _⟩
    exact ⟨_, by simp only [List.append_assoc]; rfl⟩

theorem keeps_login :
    Keeps ((Request.login identifier password).Allows f)
      ((Request.login identifier password).Ends f) [] (f.login identifier password) := by
  have hown := Request.ownFree_allows f (.login identifier password)
  unfold Session.Facade.login
  apply (keeps_call (Request.Asks.identify rfl)).bind
  intro _ s heq
  subst heq
  cases s with
  | none => exact keeps_rejectLogin f identifier password none _ _ rfl
  | some s =>
      apply (keeps_perform hown (e := .verify password s.passwordHash) rfl).bind
      intro _ v heq
      subst heq
      have hcalls : Turn.calls ([named identifier (some s)] ++
          [⟨.verify password s.passwordHash, v⟩]) = [named identifier (some s)] := rfl
      have hreject := fun failure reason =>
        keeps_rejectLogin f identifier password (some s.id) failure reason hcalls
      cases v with
      | same =>
          cases husable : s.isUsable with
          | true => exact keeps_openSession f identifier password hcalls (by simp) husable
          | false => exact hreject .accountInactive "account_inactive"
      | different => exact hreject .invalidCredential "wrong_password"
      | malformed => exact hreject .invalidCredential "wrong_password"
      | unverifiable => exact hreject .invalidCredential "wrong_password"

end Login

/-- What a logout has done once it has looked for the family of its secret. -/
inductive Leaves (p : Refresh.Secret) (past : List Turn) : Option Session.RevokedFamily → Prop where
  | unknown {a : Option Refresh.Record} (hcalls : Turn.calls past = [found p a])
      (hnone : a.filter (fun r => r.belongsTo p) = none) : Leaves p past none
  | ended {r : Refresh.Record} {n : Nat} {revoked : Session.RevokedFamily}
      (hcalls : Turn.calls past = [found p (some r), withdrew r.family .logout n]) :
      Leaves p past (some revoked)

theorem keeps_logout (f : Session.Facade) (p : Refresh.Secret) :
    Keeps ((Request.logout p).Allows f) ((Request.logout p).Ends f) []
      (Session.Facade.logout p) := by
  have hown := Request.ownFree_allows f (.logout p)
  unfold Session.Facade.logout Session.revokePresented
  refine Keeps.bind (P := Leaves p) ?_ ?_
  · apply (keeps_findPresented p (Request.Asks.leave rfl)).bind
    intro _ x h
    rcases h with ⟨a, rfl, rfl⟩
    cases hpresented : a.filter (fun r => r.belongsTo p) with
    | none => exact Leaves.unknown rfl hpresented
    | some r =>
        rcases Option.filter_eq_some_iff.mp hpresented with ⟨rfl, _⟩
        apply (keeps_call (Request.Asks.close (p := p) (r := r) rfl)).bind
        intro _ n heq
        subst heq
        exact Leaves.ended rfl
  · intro past x hx
    cases hx with
    | unknown hcalls hnone =>
        apply (keeps_note hown _).mono
        intro later _ hidle
        exact LogsOut.unknown (hidle.calls_eq.trans hcalls) hnone
    | ended hcalls =>
        apply (keeps_note hown _).bind
        intro noted _ hnoted
        apply (keeps_report hown _ _ _ _).mono
        intro later _ hidle
        exact LogsOut.ended ((hnoted.trans hidle).calls_eq.trans hcalls)

/-! # Changing the password -/

section ChangePassword

variable (f : Session.Facade) (subject : SubjectId) (current new : String) {past : List Turn}

theorem keeps_rejectChange {s : Option Subject} (failure : Failure)
    (hcalls : Turn.calls past = [knows subject s]) :
    Keeps ((Request.changePassword subject current new).Allows f)
      (Changes f subject current new) past (Session.Facade.rejectChange subject failure) := by
  have hown := Request.ownFree_allows f (.changePassword subject current new)
  unfold Session.Facade.rejectChange
  apply (keeps_note hown _).bind
  intro noted _ hnoted
  apply (keeps_report hown _ _ _ _).bind
  intro later _ hidle
  exact Changes.refused ((hnoted.trans hidle).calls_eq.trans hcalls)

theorem keeps_replacePassword {s : Subject} (hcalls : Turn.calls past = [knows subject (some s)])
    (hverified : verified current s.passwordHash ∈ past) (husable : s.isUsable = true) :
    Keeps ((Request.changePassword subject current new).Allows f)
      (Changes f subject current new) past (f.replacePassword subject new) := by
  have hown := Request.ownFree_allows f (.changePassword subject current new)
  unfold Session.Facade.replacePassword
  apply (keeps_perform hown (e := .freshSalt) rfl).bind
  intro _ salt heq
  subst heq
  have hsalted := (Turn.Idles.refl past).turn (e := .freshSalt) rfl salt
  have hstart := hsalted.calls_eq.trans hcalls
  have hmem : ⟨.freshSalt, salt⟩ ∈ past ++ [(⟨.freshSalt, salt⟩ : Turn)] := by simp
  refine (keeps_revokeSubject hown subject .passwordChange
    (Request.Asks.sweep hstart (hsalted.mem hverified) husable)).bind ?_
  intro swept₁ before hfirst
  have hfirstCalls := calls_of_idles hfirst hstart
  have hkeep : ∀ t, t ∈ past ++ [(⟨.freshSalt, salt⟩ : Turn)] → t ∈ swept₁ := by
    intro t ht
    exact hfirst.mem (List.mem_append_left _ ht)
  refine (keeps_call (Request.Asks.mark hfirstCalls (hkeep _ (hsalted.mem hverified)) husable
    (hkeep _ hmem))).bind ?_
  intro _ h heq
  cases h
  subst heq
  have hmarked := calls_answered
    (c := .markPasswordChanged subject (Password.hash f.cost salt new).text) () hfirstCalls
  refine (keeps_revokeSubject hown subject .passwordChange
    (Request.Asks.sweepAgain hmarked)).bind ?_
  intro swept₂ after hsecond
  have hcallsEnd := calls_of_idles hsecond hmarked
  apply (keeps_note hown _).bind
  intro _ _ hnoted
  apply (keeps_report hown _ _ _ _).bind
  intro later _ hreported
  have hend := hnoted.trans hreported
  have hkeepEnd : ∀ t, t ∈ past ++ [(⟨.freshSalt, salt⟩ : Turn)] → t ∈ later := by
    intro t ht
    exact hend.mem (hsecond.mem (List.mem_append_left _ (List.mem_append_left _ (hkeep t ht))))
  exact Changes.changed (hend.calls_eq.trans hcallsEnd) (hkeepEnd _ (hsalted.mem hverified))
    husable (hkeepEnd _ hmem)

theorem keeps_changePassword :
    Keeps ((Request.changePassword subject current new).Allows f)
      ((Request.changePassword subject current new).Ends f) []
      (f.changePassword subject current new) := by
  have hown := Request.ownFree_allows f (.changePassword subject current new)
  unfold Session.Facade.changePassword
  apply (keeps_call (Request.Asks.prove rfl)).bind
  intro _ s heq
  subst heq
  cases s with
  | none => exact keeps_rejectChange f subject current new _ rfl
  | some s =>
      apply (keeps_perform hown (e := .verify current s.passwordHash) rfl).bind
      intro _ v heq
      subst heq
      have hcalls : Turn.calls ([knows subject (some s)] ++
          [⟨.verify current s.passwordHash, v⟩]) = [knows subject (some s)] := rfl
      have hreject := fun failure =>
        keeps_rejectChange f subject current new failure hcalls
      cases v with
      | different => exact hreject .invalidCredential
      | malformed => exact hreject .invalidCredential
      | unverifiable => exact hreject .invalidCredential
      | same =>
          cases husable : s.isUsable with
          | false => exact hreject .accountInactive
          | true =>
              simp only [Password.Verification.accepts, Bool.not_true, Bool.false_eq_true, if_false,
                beq_self_eq_true]
              by_cases hsame : current = new
              · rw [if_pos hsame]
                exact hreject (.policyViolation .unchanged)
              · rw [if_neg hsame]
                cases f.policy.validate new with
                | error violation => exact hreject (.policyViolation violation)
                | ok _ => exact keeps_replacePassword f subject current new hcalls (by simp) husable

end ChangePassword

/-! # Looking at sessions and ending them -/

theorem keeps_revokeAll (f : Session.Facade) (subject : SubjectId) :
    Keeps ((Request.revokeAll subject).Allows f) ((Request.revokeAll subject).Ends f) []
      (Session.Facade.revokeAll subject) := by
  have hown := Request.ownFree_allows f (.revokeAll subject)
  unfold Session.Facade.revokeAll
  apply (keeps_revokeSubject hown subject .subjectRevoked (Request.Asks.sweepAll rfl)).bind
  intro swept₁ families hswept
  apply (keeps_report hown _ _ _ _).bind
  intro later _ hidle
  exact ⟨families, hidle.calls_eq.trans (calls_of_idles hswept rfl), rfl⟩

theorem keeps_listSessions (f : Session.Facade) (subject : SubjectId) :
    Keeps ((Request.listSessions subject).Allows f) ((Request.listSessions subject).Ends f) []
      (Session.Facade.listSessions subject) := by
  have hown := Request.ownFree_allows f (.listSessions subject)
  unfold Session.Facade.listSessions
  apply (keeps_call (Request.Asks.list rfl)).bind
  intro _ records heq
  subst heq
  apply (keeps_now hown).bind
  intro _ t heq
  subst heq
  exact ⟨records, t, rfl, rfl⟩

theorem keeps_authenticate (f : Session.Facade) (token : String) :
    Keeps ((Request.authenticate token).Allows f) ((Request.authenticate token).Ends f) []
      (f.authenticate token) := by
  have hown := Request.ownFree_allows f (.authenticate token)
  unfold Session.Facade.authenticate
  apply (keeps_now hown).bind
  intro _ t heq
  subst heq
  cases f.issuer.verify t.seconds token with
  | ok v => trivial
  | error rejection =>
      cases rejection with
      | refused =>
          apply (keeps_note hown _).bind
          intro later _ _
          trivial
      | _ => trivial

/-! # Permissions -/

section Permissions

variable {asks : List Turn → Effect → Prop} {past : List Turn}

section Reading

variable (hreads : ∀ past c, reads c = true → asks past (.store c)) (subject : SubjectId)
include hreads

theorem keeps_read {c : Store.Call} (h : reads c = true) :
    Keeps asks (fun _ _ => True) past (call c) :=
  (keeps_call (hreads past c h)).mono (fun _ _ _ => trivial)

theorem keeps_levelOn (r : Resource) :
    Keeps asks (fun _ _ => True) past (Permission.levelOn r subject) := by
  unfold Permission.levelOn
  apply (keeps_read hreads rfl).bind
  intro _ grant _
  cases grant with
  | some g => trivial
  | none =>
      dsimp only
      split
      · apply (keeps_read hreads rfl).bind
        intro _ history _
        split <;> trivial
      · trivial

theorem keeps_liveResource (resource : ResourceId) :
    Keeps asks (fun _ _ => True) past (Permission.liveResource resource) := by
  unfold Permission.liveResource
  apply (keeps_read hreads rfl).bind
  intro _ r _
  trivial

theorem keeps_effectiveLevel (resource : ResourceId) :
    Keeps asks (fun _ _ => True) past (Permission.effectiveLevel subject resource) := by
  unfold Permission.effectiveLevel
  apply (keeps_liveResource hreads resource).bind
  intro _ r _
  cases r with
  | none => trivial
  | some r => exact keeps_levelOn hreads subject r

theorem keeps_decideHeld (required : Level) (held : Option Level) :
    Keeps asks (fun _ _ => True) past (Permission.decideHeld subject required held) := by
  unfold Permission.decideHeld Permission.isAdministrator
  cases held.filter (fun level => level.satisfies required) with
  | some level => trivial
  | none =>
      refine Keeps.bind (P := fun _ _ => True) ?_ ?_
      · apply (keeps_read hreads rfl).bind
        intro _ s _
        trivial
      · intro _ admin _
        cases admin <;> trivial

end Reading

variable (hown : OwnFree asks) (subject : SubjectId) (resource : ResourceId) (required : Level)
include hown

theorem keeps_reportDecision (decision : Permission.Decision) (reason : Option String) :
    Keeps asks (fun _ _ => True) past
      (Permission.reportDecision subject resource required decision reason) := by
  have hreport : ∀ past kind outcome context, Keeps asks (fun _ _ => True) past
      (report kind (some subject) outcome context) :=
    fun past kind outcome context =>
      (keeps_report hown kind (some subject) outcome context).mono (fun _ _ _ => trivial)
  unfold Permission.reportDecision
  by_cases hadmin : decision = .adminOverride
  · simp only [if_pos hadmin]
    apply (keeps_note hown _).bind
    intro later _ _
    exact hreport _ _ _ _
  · simp only [if_neg hadmin]
    exact hreport _ _ _ _

variable (hreads : ∀ past c, reads c = true → asks past (.store c))
include hreads

theorem keeps_decide :
    Keeps asks (fun _ _ => True) past (Permission.decide subject resource required) := by
  unfold Permission.decide
  apply (keeps_liveResource hreads resource).bind
  intro _ r _
  cases r with
  | none =>
      apply (keeps_reportDecision hown subject resource required _ _).bind
      intro _ _ _
      trivial
  | some r =>
      apply (keeps_levelOn hreads subject r).bind
      intro _ held _
      apply (keeps_decideHeld hreads subject required held).bind
      intro _ decision _
      apply (keeps_reportDecision hown subject resource required _ _).bind
      intro _ _ _
      trivial

theorem keeps_require :
    Keeps asks (fun _ _ => True) past (Permission.require subject resource required) := by
  unfold Permission.require
  apply (keeps_decide hown subject resource required hreads).bind
  intro _ decision _
  trivial

end Permissions

/-! # All requests -/

/-- Every request follows its script, whatever it is answered. -/
theorem Request.keeps (f : Session.Facade) (q : Request) :
    Keeps (q.Allows f) (q.Ends f) [] (q.flow f) := by
  have hown := Request.ownFree_allows f q
  cases q with
  | login identifier password => exact keeps_login f identifier password
  | refresh p => exact keeps_refresh f p
  | logout p => exact keeps_logout f p
  | changePassword subject current new => exact keeps_changePassword f subject current new
  | revokeAll subject => exact keeps_revokeAll f subject
  | listSessions subject => exact keeps_listSessions f subject
  | authenticate token => exact keeps_authenticate f token
  | effectiveLevel subject resource =>
      exact keeps_effectiveLevel (fun _ _ h => Asks.inspect rfl h) subject resource
  | decide subject resource required =>
      exact keeps_decide hown subject resource required (fun _ _ h => Asks.inspect rfl h)
  | authorize subject resource required =>
      apply (keeps_decide hown subject resource required (fun _ _ h => Asks.inspect rfl h)).bind
      intro _ decision _
      trivial
  | require subject resource required =>
      exact keeps_require hown subject resource required (fun _ _ h => Asks.inspect rfl h)
  | manageGrants subject resource =>
      exact keeps_require hown subject resource .owner (fun _ _ h => Asks.inspect rfl h)

end Service

end SessionAuth
