import SessionAuth.Proofs.Service.Pairs
import SessionAuth.Proofs.Service.Replacement

/-!
# What a request reports

An event is made of what its request has read, written and counted.  Here the contents of every
event are traced back to the turns of the request, and its kind to the result.
-/

namespace SessionAuth

open Refresh

namespace Service

open SessionAuth.Flow

variable {f : Session.Facade} {turns : List Turn}

/-! # Logging in -/

/-- Why a login is refused that has read an account, or none, and the reason that it reports. -/
inductive Declines (password : String) : Option Subject → Failure → String → Prop where
  | unknown : Declines password none .invalidCredential "unknown_identifier"
  | mismatched {x : Subject} (hdiffers : Password.verify password x.passwordHash ≠ .same) :
      Declines password (some x) .invalidCredential "wrong_password"
  | barred {x : Subject} (hverified : Password.verify password x.passwordHash = .same)
      (hunusable : x.isUsable = false) :
      Declines password (some x) .accountInactive "account_inactive"

inductive ReportsLogin (f : Session.Facade) (identifier password : String) (turns : List Turn) :
    Except Failure Session.Tokens → Prop where
  | opened {x : Subject} {r : Record} {tokens : Session.Tokens} (hopened : opened r ∈ turns)
      (hmakes : Makes f.issuer turns x 0 r tokens)
      (hreported : Reported turns .loginSucceeded (some tokens.subject) .success
        [("family_id", .string tokens.family.text)]) :
      ReportsLogin f identifier password turns (.ok tokens)
  | declined {y : Option Subject} {failure : Failure} {reason : String}
      (hread : named identifier y ∈ turns) (hdeclines : Declines password y failure reason)
      (hreported : Reported turns .loginFailed (y.map Subject.id) .failure
        [("reason", .string reason)]) :
      ReportsLogin f identifier password turns (.error failure)

theorem reportsLogin_of_yields {identifier password : String} {a : Except Failure Session.Tokens}
    (hverify : ∀ stored v, ⟨.verify password stored, v⟩ ∈ turns →
      Password.verify password stored = v)
    (h : (f.login identifier password).Yields turns a) :
    ReportsLogin f identifier password turns a := by
  have hdeclined : ∀ {y failure reason rest}, named identifier y ∈ turns → rest ⊆ turns →
      Declines password y failure reason →
      (Session.Facade.rejectLogin (y.map Subject.id) failure reason).Yields rest a →
      ReportsLogin f identifier password turns a := by
    intro y failure reason rest hread hrest hdeclines hreject
    rcases yields_rejectLogin hreject with ⟨rfl, id, t, rfl⟩
    exact ReportsLogin.declined hread hdeclines ⟨id, t, hrest (by simp)⟩
  rcases examines_of_yields h with ⟨y, hexamines⟩
  cases hexamines with
  | unknown hturns hrest =>
      exact hdeclined (by simp [hturns]) (by simp [hturns]) Declines.unknown hrest
  | mismatched hturns hdiffers hrest =>
      rename_i x v rest
      rw [← hverify x.passwordHash v (by simp [hturns])] at hdiffers
      exact hdeclined (by simp [hturns]) (by simp [hturns]) (Declines.mismatched hdiffers) hrest
  | barred hturns hunusable hrest =>
      rename_i x rest
      have hverified := hverify x.passwordHash .same (by simp [hturns])
      exact hdeclined (by simp [hturns]) (by simp [hturns])
        (Declines.barred hverified hunusable) hrest
  | admitted hturns husable hrest =>
      rename_i x rest
      have hmore : rest ⊆ turns := by simp [hturns]
      rcases yields_openSession hrest with ⟨tokens, r, t, rfl, hmakes, hcalls, hreported⟩
      have hopened : opened r ∈ rest := Turn.mem_of_calls hcalls List.mem_cons_self
      exact ReportsLogin.opened (hmore hopened) (hmakes.mono hmore) (hreported.mono hmore)

/-! # Refreshing -/

/-- What a refusal of a refresh has to do with the record that was presented. -/
inductive Refuses (r : Record) (turns : List Turn) : Session.Rejection → Prop where
  | reused {n : Nat} (hwithdrawal : withdrew r.family .reuseDetected n ∈ turns) :
      Refuses r turns (.reuseDetected r.subject r.family n)
  | other {j : Session.Rejection} (hother : j.failure ≠ .reuseDetected)
      (hnames : j = .unknown ∨ j.subject? = some r.subject ∧ j.family? = some r.family) :
      Refuses r turns j

/-- What a refusal of a secret rests on: the record that was read for it, or none, and the calls
that were made for the sake of the record. -/
inductive Rests (p : Secret) (turns : List Turn) : Option Record → Session.Rejection → Prop where
  | absent {y : Option Record} (hnone : y.filter (fun r => r.belongsTo p) = none) :
      Rests p turns y .unknown
  | missing {r next : Record} (hexchanged : exchanged r.id next .notFound ∈ turns) :
      Rests p turns (some r) .unknown
  | withdrawn {r : Record} (hstate : r.state = .revoked) :
      Rests p turns (some r) (.familyRevoked r.subject r.family)
  | lost {r next : Record} {o : Transition} (hexchanged : exchanged r.id next o ∈ turns)
      (hlost : o ≠ .applied) (hmatch : o ≠ .stateMismatch .consumed) :
      Rests p turns (some r) (.familyRevoked r.subject r.family)
  | expired {r : Record} : Rests p turns (some r) (.expired r.subject r.family)
  | barred {r : Record} : Rests p turns (some r) (.subjectInactive r.subject r.family)
  | reused {r : Record} {n : Nat} (hwithdrawal : withdrew r.family .reuseDetected n ∈ turns) :
      Rests p turns (some r) (.reuseDetected r.subject r.family n)

theorem Rests.mono {p : Secret} {more : List Turn} {y : Option Record} {j : Session.Rejection}
    (h : Rests p turns y j) (hmore : turns ⊆ more) : Rests p more y j := by
  cases h with
  | absent hnone => exact Rests.absent hnone
  | missing hexchanged => exact Rests.missing (hmore hexchanged)
  | withdrawn hstate => exact Rests.withdrawn hstate
  | lost hexchanged hlost hmatch => exact Rests.lost (hmore hexchanged) hlost hmatch
  | expired => exact Rests.expired
  | barred => exact Rests.barred
  | reused hwithdrawal => exact Rests.reused (hmore hwithdrawal)

section Refusals

variable {p : Secret} {r : Record} {j : Session.Rejection}

theorem rests_revokeForReuse
    (h : (Session.revokeForReuse r >>= fun j =>
      (pure (.error j) : Flow (Except Session.Rejection Session.Rotated))).Yields turns
        (.error j)) : Rests p turns (some r) j := by
  rcases yields_bind.mp h with ⟨_, _, _, rfl, hrevoke, rfl, hdone⟩
  cases hdone
  rcases yields_call_bind.mp hrevoke with ⟨n, _, rfl, hnote⟩
  rcases yields_note_bind.mp hnote with ⟨_, rfl, rfl, rfl⟩
  exact Rests.reused (by simp)

theorem rests_revokeForSubject
    (h : (Session.revokeForSubject r >>= fun j =>
      (pure (.error j) : Flow (Except Session.Rejection Session.Rotated))).Yields turns
        (.error j)) : Rests p turns (some r) j := by
  rcases yields_bind.mp h with ⟨_, _, _, rfl, hrevoke, rfl, hdone⟩
  cases hdone
  rcases yields_call_bind.mp hrevoke with ⟨n, _, rfl, hnote⟩
  rcases yields_note_bind.mp hnote with ⟨_, rfl, rfl, rfl⟩
  exact Rests.barred

theorem rests_exchange {i : Access.Issuer} {x : Subject}
    (h : (Session.exchange i x r).Yields turns (.error j)) : Rests p turns (some r) j := by
  unfold Session.exchange at h
  rcases yields_bind.mp h with ⟨access, _, _, rfl, _, hnext⟩
  rcases yields_ofExcept_bind.mp hnext with ⟨generation, _, hissue⟩
  rcases yields_bind.mp hissue with ⟨⟨secret, next⟩, _, _, rfl, _, hexchange⟩
  rcases yields_call_bind.mp hexchange with ⟨o, rest, rfl, houtcome⟩
  have hmade : ∀ before before' : List Turn,
      exchanged r.id next o ∈ before ++ (before' ++ exchanged r.id next o :: rest) := by
    intro before before'
    simp
  cases o with
  | applied =>
      rcases yields_note_bind.mp houtcome with ⟨_, _, hdone⟩
      cases hdone.right
  | familyRevoked =>
      cases houtcome.right
      exact Rests.lost (hmade _ _) (by simp) (by simp)
  | notFound =>
      cases houtcome.right
      exact Rests.missing (hmade _ _)
  | stateMismatch current =>
      cases current with
      | active =>
          cases houtcome.right
          exact Rests.lost (hmade _ _) (by simp) (by simp)
      | revoked =>
          cases houtcome.right
          exact Rests.lost (hmade _ _) (by simp) (by simp)
      -- Somebody else has exchanged the record since it was read.
      | consumed =>
          apply (rests_revokeForReuse houtcome).mono
          intro turn hturn
          simp [hturn]

theorem rests_advance {i : Access.Issuer} (h : (Session.advance i r).Yields turns (.error j)) :
    Rests p turns (some r) j := by
  unfold Session.advance at h
  rcases yields_call_bind.mp h with ⟨y, rest, rfl, hchecks⟩
  have hmore : rest ⊆ Turn.answered (.findById r.subject) y :: rest := List.subset_cons_self _ _
  cases y with
  | none => exact (rests_revokeForSubject hchecks).mono hmore
  | some x =>
      dsimp only at hchecks
      split at hchecks
      · exact (rests_exchange hchecks).mono hmore
      · exact (rests_revokeForSubject hchecks).mono hmore

/-- A rotation is refused for the sake of the record that was presented, or because there is none
that belongs to the secret. -/
theorem rests_rotate {i : Access.Issuer} (h : (Session.rotate i p).Yields turns (.error j)) :
    ∃ y, found p y ∈ turns ∧ Rests p turns y j := by
  unfold Session.rotate Session.findPresented at h
  rcases yields_bind.mp h with ⟨presented, _, rest, rfl, hfound, hchecks⟩
  rcases yields_call_bind.mp hfound with ⟨y, _, rfl, rfl, rfl⟩
  refine ⟨y, by simp, ?_⟩
  cases hpresented : y.filter (fun r => r.belongsTo p) with
  | none =>
      rw [hpresented] at hchecks
      cases hchecks.right
      exact Rests.absent hpresented
  | some r =>
      rw [hpresented] at hchecks
      rcases Option.filter_eq_some_iff.mp hpresented with ⟨rfl, _⟩
      have hlater : ∀ t more, rest = ⟨.clock, t⟩ :: more → more ⊆ [found p (some r)] ++ rest := by
        rintro t more rfl turn hturn
        simp [hturn]
      dsimp only at hchecks
      split at hchecks
      case h_1 hstate =>
          rcases yields_note_bind.mp hchecks with ⟨_, rfl, _, hdone⟩
          cases hdone
          exact Rests.withdrawn hstate
      case h_2 =>
          rcases yields_now_bind.mp hchecks with ⟨t, more, hrest, hmore⟩
          split at hmore
          · cases hmore.right
            exact Rests.expired
          · split at hmore
            · exact (rests_revokeForReuse hmore).mono (hlater t more hrest)
            · exact (rests_advance hmore).mono (hlater t more hrest)

theorem rests_of_refresh {failure : Failure} (h : (f.refresh p).Yields turns (.error failure)) :
    ∃ y j more, failure = j.failure ∧ found p y ∈ turns ∧ Rests p turns y j ∧ more ⊆ turns ∧
      (Session.Facade.reportRejection j).Yields more () := by
  unfold Session.Facade.refresh at h
  rcases yields_bind.mp h with ⟨result, xs, ys, rfl, hrotate, hrest⟩
  cases result with
  | ok o =>
      rcases yields_bind.mp hrest with ⟨_, _, _, _, _, hdone⟩
      cases hdone.right
  | error j =>
      rcases yields_bind.mp hrest with ⟨_, ys, _, rfl, hreport, rfl, hdone⟩
      cases hdone
      rw [List.append_nil]
      rcases rests_rotate hrotate with ⟨y, hread, hrests⟩
      have hbefore : xs ⊆ xs ++ ys := List.subset_append_left _ _
      exact ⟨y, j, ys, rfl, hbefore hread, hrests.mono hbefore, List.subset_append_right _ _,
        hreport⟩

theorem reported_of_reportRejection (hother : j.failure ≠ .reuseDetected)
    (h : (Session.Facade.reportRejection j).Yields turns ()) :
    Reported turns .refreshRejected j.subject? .failure
      [("family_id", .optionalString (j.family?.map Id.text)), ("reason", .string j.code)] := by
  cases j with
  | reuseDetected subject family n => exact absurd rfl hother
  | _ => exact reported_of_yields h

theorem Rests.refuses {y : Option Record} (h : Rests p turns y j) :
    j = .unknown ∨ ∃ r, y = some r ∧ Refuses r turns j := by
  have hnamed : ∀ (q : Record) (k : Session.Rejection), k.failure ≠ .reuseDetected →
      k.subject? = some q.subject → k.family? = some q.family →
      k = .unknown ∨ ∃ r, some q = some r ∧ Refuses r turns k := by
    intro q k hother hsubject hfamily
    exact Or.inr ⟨q, rfl, Refuses.other hother (Or.inr ⟨hsubject, hfamily⟩)⟩
  cases h with
  | absent => exact Or.inl rfl
  | missing => exact Or.inl rfl
  | withdrawn => exact hnamed _ _ (by simp [Session.Rejection.failure]) rfl rfl
  | lost => exact hnamed _ _ (by simp [Session.Rejection.failure]) rfl rfl
  | expired => exact hnamed _ _ (by simp [Session.Rejection.failure]) rfl rfl
  | barred => exact hnamed _ _ (by simp [Session.Rejection.failure]) rfl rfl
  | reused hwithdrawal => exact Or.inr ⟨_, rfl, Refuses.reused hwithdrawal⟩

/-- What a refused refresh says about its refusal. -/
inductive ReportsRefusal (p : Secret) (turns : List Turn) : Failure → Prop where
  | reused {r : Record} {n : Nat} (hread : found p (some r) ∈ turns)
      (hwithdrawal : withdrew r.family .reuseDetected n ∈ turns)
      (hreported : Reported turns .refreshReuseDetected (some r.subject) .failure
        [("family_id", .string r.family.text), ("revoked_records", .int n)]) :
      ReportsRefusal p turns .reuseDetected
  | rejected {y : Option Record} {j : Session.Rejection} (hread : found p y ∈ turns)
      (hother : j.failure ≠ .reuseDetected)
      (hnames : j = .unknown ∨
        ∃ r, y = some r ∧ j.subject? = some r.subject ∧ j.family? = some r.family)
      (hreported : Reported turns .refreshRejected j.subject? .failure
        [("family_id", .optionalString (j.family?.map Id.text)), ("reason", .string j.code)]) :
      ReportsRefusal p turns j.failure

theorem reportsRefusal_of_yields {failure : Failure}
    (h : (f.refresh p).Yields turns (.error failure)) : ReportsRefusal p turns failure := by
  rcases rests_of_refresh h with ⟨y, j, more, rfl, hread, hrests, hmore, hreport⟩
  have hrejected : j.failure ≠ .reuseDetected →
      (j = .unknown ∨ ∃ r, y = some r ∧ j.subject? = some r.subject ∧
        j.family? = some r.family) → ReportsRefusal p turns j.failure := by
    intro hother hnames
    exact ReportsRefusal.rejected hread hother hnames
      ((reported_of_reportRejection hother hreport).mono hmore)
  rcases hrests.refuses with rfl | ⟨r, rfl, hrefuses⟩
  · exact hrejected (by simp [Session.Rejection.failure]) (Or.inl rfl)
  · cases hrefuses with
    | reused hwithdrawal =>
        exact ReportsRefusal.reused hread hwithdrawal ((reported_of_yields hreport).mono hmore)
    | other hother hnames =>
        exact hrejected hother (hnames.imp id (fun hboth => ⟨r, rfl, hboth⟩))

end Refusals

/-! # Ending sessions -/

inductive ReportsLogout (p : Secret) (turns : List Turn) : Prop where
  | ended {r : Record} {n : Nat} (hread : found p (some r) ∈ turns)
      (hwithdrawal : withdrew r.family .logout n ∈ turns)
      (hreported : Reported turns .sessionLoggedOut (some r.subject) .success
        [("family_id", .string r.family.text), ("revoked_records", .int n)]) :
      ReportsLogout p turns
  | unknown {y : Option Record} (hread : found p y ∈ turns)
      (hnone : y.filter (fun r => r.belongsTo p) = none)
      (hsilent : turns.filterMap Turn.event? = []) : ReportsLogout p turns

theorem reportsLogout_of_yields {p : Secret} {a : Unit}
    (h : (Session.Facade.logout p).Yields turns a) : ReportsLogout p turns := by
  unfold Session.Facade.logout Session.revokePresented Session.findPresented at h
  rcases yields_bind.mp h with ⟨revoked, _, ys, rfl, hrevoke, hrest⟩
  rcases yields_bind.mp hrevoke with ⟨presented, _, _, rfl, hfound, hend⟩
  rcases yields_call_bind.mp hfound with ⟨y, _, rfl, rfl, rfl⟩
  cases hpresented : y.filter (fun r => r.belongsTo p) with
  | none =>
      rw [hpresented] at hend
      rcases hend with ⟨rfl, rfl⟩
      rcases hrest with ⟨_, _, rfl, rfl, _⟩
      exact ReportsLogout.unknown (by simp) hpresented rfl
  | some r =>
      rw [hpresented] at hend
      rcases Option.filter_eq_some_iff.mp hpresented with ⟨rfl, _⟩
      rcases yields_call_bind.mp hend with ⟨n, _, rfl, rfl, rfl⟩
      rcases yields_note_bind.mp hrest with ⟨_, rfl, hreport⟩
      apply ReportsLogout.ended (r := r) (n := n) (by simp) (by simp)
      apply (reported_of_yields hreport).mono
      intro turn hturn
      simp [hturn]

theorem reported_of_revokeAll {subject : SubjectId} {n : Nat}
    (h : (Session.Facade.revokeAll subject).Yields turns n) :
    ∃ families, n = families.length ∧ swept subject .subjectRevoked families ∈ turns ∧
      Reported turns .sessionsRevoked (some subject) .success
        [("revoked_families", .int families.length)] := by
  unfold Session.Facade.revokeAll at h
  rcases yields_bind.mp h with ⟨families, _, _, rfl, hrevoke, hrest⟩
  rcases yields_bind.mp hrest with ⟨_, _, _, rfl, hreport, rfl, rfl⟩
  cases yields_revokeSubject.mp hrevoke
  refine ⟨families, rfl, by simp, (reported_of_yields hreport).mono ?_⟩
  intro turn hturn
  simp [hturn]

/-! # Changing the password -/

section ChangePassword

variable {subject : SubjectId} {current new : String}

theorem reported_of_replacing {x : Subject} {salt : Password.Salt} {before after : List FamilyId}
    {id : Id .event} {t : Time.Instant}
    (h : turns = knows subject (some x) :: verified current x.passwordHash ::
      replacing f subject new salt before after id t) :
    swept subject .passwordChange before ∈ turns ∧ swept subject .passwordChange after ∈ turns ∧
      Reported turns .passwordChanged (some subject) .success
        [("revoked_families", .int (before.length + after.length : Nat))] := by
  subst h
  exact ⟨by simp [replacing], by simp [replacing], id, t, by simp [replacing, changedEvent]⟩

theorem reported_of_changePassword_refused {failure : Failure}
    (h : (f.changePassword subject current new).Yields turns (.error failure)) :
    Reported turns .passwordChangeFailed (some subject) .failure
      [("reason", .string failure.code)] := by
  have hrefused : ∀ {failure' rest}, rest ⊆ turns →
      (Session.Facade.rejectChange subject failure').Yields rest (.error failure) →
      Reported turns .passwordChangeFailed (some subject) .failure
        [("reason", .string failure.code)] := by
    intro failure' rest hrest hreject
    rcases yields_rejectChange hreject with ⟨hfailure, id, t, rfl⟩
    cases hfailure
    exact ⟨id, t, hrest (by simp)⟩
  cases weighs_of_yields h with
  | unknown hturns hrest => exact hrefused (by simp [hturns]) hrest
  | mismatched hturns _ hrest => exact hrefused (by simp [hturns]) hrest
  | barred hturns _ hrest => exact hrefused (by simp [hturns]) hrest
  | unfit hturns _ hrest => exact hrefused (by simp [hturns]) hrest
  | fit _ _ _ _ hrest => cases (yields_replacePassword hrest).left

end ChangePassword

/-! # Permissions -/

section Decisions

variable {subject : SubjectId} {resource : ResourceId} {required : Level}
  {d : Permission.Decision}

def contextOf (resource : ResourceId) (required : Level) (d : Permission.Decision)
    (reason : Option String) : List (String × JsonValue) :=
  [("resource_id", .string resource.text), ("required", .string required.name),
    ("held", .optionalString ((Permission.eventOf d).2.2.map Level.name)),
    ("reason", .optionalString reason)]

theorem reported_of_reportDecision {reason : Option String} {a : Unit}
    (h : (Permission.reportDecision subject resource required d reason).Yields turns a) :
    Reported turns (Permission.eventOf d).1 (some subject) (Permission.eventOf d).2.1
      (contextOf resource required d reason) := by
  cases d with
  | granted level => exact reported_of_yields h
  | denied held => exact reported_of_yields h
  | adminOverride =>
      rcases yields_note_bind.mp h with ⟨rest, rfl, hreport⟩
      exact (reported_of_yields hreport).mono (List.subset_cons_self _ _)

/-- The reason that is reported for a decision: a resource that is not there is told from one to
which the subject has no access. -/
inductive Grounds (resource : ResourceId) (turns : List Turn) :
    Permission.Decision → Option String → Prop where
  | missing {y : Option Resource} (hread : Turn.answered (.findResource resource) y ∈ turns)
      (hmissing : y.filter (fun r => !r.isDeleted) = none) :
      Grounds resource turns (.denied none) (some "resource_not_found")
  | present {d : Permission.Decision} {y : Option Resource} {r : Resource}
      (hread : Turn.answered (.findResource resource) y ∈ turns)
      (hpresent : y.filter (fun r => !r.isDeleted) = some r) : Grounds resource turns d none

theorem reported_of_decide (h : (Permission.decide subject resource required).Yields turns d) :
    ∃ reason, Grounds resource turns d reason ∧
      Reported turns (Permission.eventOf d).1 (some subject) (Permission.eventOf d).2.1
        (contextOf resource required d reason) := by
  unfold Permission.decide Permission.liveResource at h
  rcases yields_bind.mp h with ⟨presented, _, _, rfl, hfound, hrest⟩
  rcases yields_call_bind.mp hfound with ⟨y, _, rfl, rfl, rfl⟩
  cases hpresented : y.filter (fun r => !r.isDeleted) with
  | none =>
      rw [hpresented] at hrest
      rcases yields_bind.mp hrest with ⟨_, _, _, rfl, hreport, rfl, rfl⟩
      refine ⟨some "resource_not_found", Grounds.missing (y := y) (by simp) hpresented, ?_⟩
      apply (reported_of_reportDecision hreport).mono
      intro turn hturn
      simp [hturn]
  | some r =>
      rw [hpresented] at hrest
      rcases yields_bind.mp hrest with ⟨held, _, _, rfl, _, hdecide⟩
      rcases yields_bind.mp hdecide with ⟨d', _, _, rfl, _, htell⟩
      rcases yields_bind.mp htell with ⟨_, _, _, rfl, hreport, rfl, rfl⟩
      refine ⟨none, Grounds.present (y := y) (by simp) hpresented, ?_⟩
      apply (reported_of_reportDecision hreport).mono
      intro turn hturn
      simp [hturn]

end Decisions

end Service

end SessionAuth
