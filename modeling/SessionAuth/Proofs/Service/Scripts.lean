import SessionAuth.Proofs.Service.Basic

/-!
# Scripts

What a request asks of the store is a script.  Which call comes next depends on the calls that
were answered before it, and the result depends on all of them.  The scripts mention neither the
store nor any other request, so a request follows its script whatever happens around it.
-/

namespace SessionAuth

open Time

namespace Service

/-! # Answered calls -/

abbrev found (p : Refresh.Secret) (r : Option Refresh.Record) : Turn :=
  Turn.answered (.findByHash p.hash) r

abbrev knows (id : SubjectId) (s : Option Subject) : Turn :=
  Turn.answered (.findById id) s

abbrev named (identifier : String) (s : Option Subject) : Turn :=
  Turn.answered (.findByIdentifier identifier) s

abbrev verified (password stored : String) : Turn :=
  ⟨.verify password stored, .same⟩

abbrev opened (r : Refresh.Record) : Turn :=
  Turn.answered (.insert r) ()

abbrev exchanged (id : RecordId) (s : Refresh.Record) (o : Refresh.Transition) : Turn :=
  Turn.answered (.transition id .active .consumed (some s)) o

abbrev withdrew (fam : FamilyId) (reason : Refresh.Reason) (n : Nat) : Turn :=
  Turn.answered (.revokeFamily fam reason) n

abbrev swept (subject : SubjectId) (reason : Refresh.Reason) (families : List FamilyId) : Turn :=
  Turn.answered (.revokeSubjectFamilies subject reason) families

abbrev marked (subject : SubjectId) (hash : String) : Turn :=
  Turn.answered (.markPasswordChanged subject hash) ()

/-- A record that was issued for a secret with what some turns have drawn. -/
inductive Issued (i : Access.Issuer) (past : List Turn) (subject : SubjectId) (family : FamilyId)
    (generation : Int) : Refresh.Secret → Refresh.Record → Prop where
  | mk {t : Instant} {id : RecordId} {secret : Refresh.Secret}
      (hsecret : ⟨.freshSecret, secret⟩ ∈ past) (hclock : ⟨.clock, t⟩ ∈ past)
      (hid : ⟨.freshId, id.uuid⟩ ∈ past) :
      Issued i past subject family generation secret
        (i.issueRefresh t id secret subject family generation)

/-! # Rotation -/

/-- How the rotation of a secret ends. -/
inductive Rotates (i : Access.Issuer) (p : Refresh.Secret) (past : List Turn) :
    Except Session.Rejection Session.Rotated → Prop where
  | renewed {r s : _} {generation : Int} {secret : Refresh.Secret} {next : Refresh.Record}
      {access : Access.Credential}
      (hcalls : Turn.calls past =
        [found p (some r), knows r.subject (some s), exchanged r.id next .applied])
      (hhash : r.belongsTo p = true) (hstate : r.state = .active) (husable : s.isUsable = true)
      (hgeneration : Session.nextGeneration r.generation = .ok generation)
      (hissued : Issued i past s.id r.family generation secret next) :
      Rotates i p past
        (.ok ⟨s.id, r.family, generation, r.id, access, secret, next.expiresAt⟩)
  | unknown {a : Option Refresh.Record} (hcalls : Turn.calls past = [found p a])
      (hnone : a.filter (fun r => r.belongsTo p) = none) : Rotates i p past (.error .unknown)
  | withdrawn {r : Refresh.Record} (hcalls : Turn.calls past = [found p (some r)])
      (hstate : r.state = .revoked) :
      Rotates i p past (.error (.familyRevoked r.subject r.family))
  | expired {r : Refresh.Record} {t : Instant} {more : List Turn}
      (hpast : past = found p (some r) :: ⟨.clock, t⟩ :: more) (hcalls : Turn.calls more = [])
      (hexpired : r.isExpired t = true) :
      Rotates i p past (.error (.expired r.subject r.family))
  | reused {r : Refresh.Record} {n : Nat}
      (hcalls : Turn.calls past = [found p (some r), withdrew r.family .reuseDetected n])
      (hhash : r.belongsTo p = true) (hstate : r.state = .consumed) :
      Rotates i p past (.error (.reuseDetected r.subject r.family n))
  | unusable {r : Refresh.Record} {s : Option Subject} {n : Nat}
      (hcalls : Turn.calls past =
        [found p (some r), knows r.subject s, withdrew r.family .subjectRevoked n])
      (hstate : r.state = .active) (husable : ∀ x ∈ s, x.isUsable = false) :
      Rotates i p past (.error (.subjectInactive r.subject r.family))
  | raced {r s next : _} {n : Nat}
      (hcalls : Turn.calls past =
        [found p (some r), knows r.subject (some s),
          exchanged r.id next (.stateMismatch .consumed), withdrew r.family .reuseDetected n])
      (hhash : r.belongsTo p = true) (hstate : r.state = .active) (husable : s.isUsable = true) :
      Rotates i p past (.error (.reuseDetected r.subject r.family n))
  | late {r s next : _} {o : Refresh.Transition} {rejection : Session.Rejection}
      (hcalls : Turn.calls past =
        [found p (some r), knows r.subject (some s), exchanged r.id next o])
      (hstate : r.state = .active) (husable : s.isUsable = true) (hlost : o ≠ .applied)
      (hmatch : o ≠ .stateMismatch .consumed)
      (hrejection : rejection.failure = .invalidCredential) :
      Rotates i p past (.error rejection)

def renewal (f : Session.Facade) :
    Except Session.Rejection Session.Rotated → Except Failure Session.Tokens
  | .ok r => .ok ⟨r.subject, r.family, r.access, f.issuer.accessSeconds, r.secret, r.expiresAt⟩
  | .error rejection => .error rejection.failure

/-! # Results -/

inductive LogsIn (f : Session.Facade) (identifier password : String) (past : List Turn) :
    Except Failure Session.Tokens → Prop where
  | opened {s : Subject} {family : FamilyId} {secret : Refresh.Secret} {record : Refresh.Record}
      {access : Access.Credential} {t : Instant}
      (hcalls : Turn.calls past = [named identifier (some s), opened record,
        Turn.answered (.recordAuthentication s.id t) ()])
      (hverified : verified password s.passwordHash ∈ past) (husable : s.isUsable = true)
      (hissued : Issued f.issuer past s.id family 0 secret record) :
      LogsIn f identifier password past
        (.ok ⟨s.id, family, access, f.issuer.accessSeconds, secret, record.expiresAt⟩)
  | refused {s : Option Subject} {failure : Failure}
      (hcalls : Turn.calls past = [named identifier s]) :
      LogsIn f identifier password past (.error failure)

inductive LogsOut (p : Refresh.Secret) (past : List Turn) : Unit → Prop where
  | unknown {a : Option Refresh.Record} (hcalls : Turn.calls past = [found p a])
      (hnone : a.filter (fun r => r.belongsTo p) = none) : LogsOut p past ()
  | ended {r : Refresh.Record} {n : Nat}
      (hcalls : Turn.calls past = [found p (some r), withdrew r.family .logout n]) :
      LogsOut p past ()

inductive Changes (f : Session.Facade) (subject : SubjectId) (current new : String)
    (past : List Turn) : Except Failure Unit → Prop where
  | changed {s : Subject} {salt : Password.Salt} {before after : List FamilyId}
      (hcalls : Turn.calls past =
        [knows subject (some s), swept subject .passwordChange before,
          marked subject (Password.hash f.cost salt new).text,
          swept subject .passwordChange after])
      (hverified : verified current s.passwordHash ∈ past) (husable : s.isUsable = true)
      (hsalt : ⟨.freshSalt, salt⟩ ∈ past) : Changes f subject current new past (.ok ())
  | refused {s : Option Subject} {failure : Failure}
      (hcalls : Turn.calls past = [knows subject s]) :
      Changes f subject current new past (.error failure)

namespace Request

/-- What the answer to a request says about its turns. -/
def Ends (f : Session.Facade) : (q : Request) → List Turn → q.Reply → Prop
  | login identifier password => LogsIn f identifier password
  | refresh p => fun past a => ∃ x, Rotates f.issuer p past x ∧ a = renewal f x
  | logout p => LogsOut p
  | changePassword subject current new => Changes f subject current new
  | revokeAll subject => fun past n =>
      ∃ families, Turn.calls past = [swept subject .subjectRevoked families] ∧
        n = families.length
  | listSessions subject => fun past sessions =>
      ∃ records t, Turn.calls past = [Turn.answered (.activeRecords subject) records] ∧
        sessions = (records.filter (fun r => !r.isExpired t)).map Session.Info.ofRecord
  | _ => fun _ _ => True

/-! # Calls -/

def inspects : Request → Bool
  | effectiveLevel _ _ => true
  | decide _ _ _ => true
  | authorize _ _ _ => true
  | require _ _ _ => true
  | manageGrants _ _ => true
  | _ => false

end Request

def reads : Store.Call → Bool
  | .findById _ => true
  | .findByIdentifier _ => true
  | .findByHash _ => true
  | .activeRecords _ => true
  | .findResource _ => true
  | .findActiveGrant _ _ => true
  | .grantHistory _ _ => true
  | _ => false

namespace Request

/-- The call that a request makes after some turns. -/
inductive Asks (f : Session.Facade) : Request → List Turn → Store.Call → Prop where
  | identify {identifier password : String} {past : List Turn} (hcalls : Turn.calls past = []) :
      Asks f (login identifier password) past (.findByIdentifier identifier)
  | enter {identifier password : String} {past : List Turn} {s : Subject} {family : FamilyId}
      {secret : Refresh.Secret} {record : Refresh.Record}
      (hcalls : Turn.calls past = [named identifier (some s)])
      (hverified : verified password s.passwordHash ∈ past) (husable : s.isUsable = true)
      (hissued : Issued f.issuer past s.id family 0 secret record) :
      Asks f (login identifier password) past (.insert record)
  | remember {identifier password : String} {past : List Turn} {s : Subject}
      {record : Refresh.Record} {t : Instant}
      (hcalls : Turn.calls past = [named identifier (some s), opened record]) :
      Asks f (login identifier password) past (.recordAuthentication s.id t)
  | find {p : Refresh.Secret} {past : List Turn} (hcalls : Turn.calls past = []) :
      Asks f (refresh p) past (.findByHash p.hash)
  | know {p : Refresh.Secret} {past : List Turn} {r : Refresh.Record}
      (hcalls : Turn.calls past = [found p (some r)]) (hstate : r.state = .active) :
      Asks f (refresh p) past (.findById r.subject)
  | exchange {p : Refresh.Secret} {past : List Turn} {r s next : _} {generation : Int}
      {secret : Refresh.Secret}
      (hcalls : Turn.calls past = [found p (some r), knows r.subject (some s)])
      (hstate : r.state = .active) (husable : s.isUsable = true)
      (hgeneration : Session.nextGeneration r.generation = .ok generation)
      (hissued : Issued f.issuer past s.id r.family generation secret next) :
      Asks f (refresh p) past (.transition r.id .active .consumed (some next))
  | reuse {p : Refresh.Secret} {past : List Turn} {r : Refresh.Record}
      (hcalls : Turn.calls past = [found p (some r)]) (hstate : r.state = .consumed) :
      Asks f (refresh p) past (.revokeFamily r.family .reuseDetected)
  | race {p : Refresh.Secret} {past : List Turn} {r s next : _}
      (hcalls : Turn.calls past =
        [found p (some r), knows r.subject (some s),
          exchanged r.id next (.stateMismatch .consumed)]) :
      Asks f (refresh p) past (.revokeFamily r.family .reuseDetected)
  | bar {p : Refresh.Secret} {past : List Turn} {r : Refresh.Record} {s : Option Subject}
      (hcalls : Turn.calls past = [found p (some r), knows r.subject s])
      (husable : ∀ x ∈ s, x.isUsable = false) :
      Asks f (refresh p) past (.revokeFamily r.family .subjectRevoked)
  | leave {p : Refresh.Secret} {past : List Turn} (hcalls : Turn.calls past = []) :
      Asks f (logout p) past (.findByHash p.hash)
  | close {p : Refresh.Secret} {past : List Turn} {r : Refresh.Record}
      (hcalls : Turn.calls past = [found p (some r)]) :
      Asks f (logout p) past (.revokeFamily r.family .logout)
  | prove {subject : SubjectId} {current new : String} {past : List Turn}
      (hcalls : Turn.calls past = []) :
      Asks f (changePassword subject current new) past (.findById subject)
  | sweep {subject : SubjectId} {current new : String} {past : List Turn} {s : Subject}
      (hcalls : Turn.calls past = [knows subject (some s)])
      (hverified : verified current s.passwordHash ∈ past) (husable : s.isUsable = true) :
      Asks f (changePassword subject current new) past
        (.revokeSubjectFamilies subject .passwordChange)
  | mark {subject : SubjectId} {current new : String} {past : List Turn} {s : Subject}
      {salt : Password.Salt} {before : List FamilyId}
      (hcalls : Turn.calls past =
        [knows subject (some s), swept subject .passwordChange before])
      (hverified : verified current s.passwordHash ∈ past) (husable : s.isUsable = true)
      (hsalt : ⟨.freshSalt, salt⟩ ∈ past) :
      Asks f (changePassword subject current new) past
        (.markPasswordChanged subject (Password.hash f.cost salt new).text)
  | sweepAgain {subject : SubjectId} {current new : String} {past : List Turn} {s : Subject}
      {salt : Password.Salt} {before : List FamilyId}
      (hcalls : Turn.calls past =
        [knows subject (some s), swept subject .passwordChange before,
          marked subject (Password.hash f.cost salt new).text]) :
      Asks f (changePassword subject current new) past
        (.revokeSubjectFamilies subject .passwordChange)
  | sweepAll {subject : SubjectId} {past : List Turn} (hcalls : Turn.calls past = []) :
      Asks f (revokeAll subject) past (.revokeSubjectFamilies subject .subjectRevoked)
  | list {subject : SubjectId} {past : List Turn} (hcalls : Turn.calls past = []) :
      Asks f (listSessions subject) past (.activeRecords subject)
  | inspect {q : Request} {past : List Turn} {c : Store.Call} (hinspects : q.inspects = true)
      (hreads : reads c = true) : Asks f q past c

/-- The effects that a request may ask for after some turns. -/
def Allows (f : Session.Facade) (q : Request) (past : List Turn) : Effect → Prop
  | .store c => q.Asks f past c
  | _ => True

theorem ownFree_allows (f : Session.Facade) (q : Request) : Flow.OwnFree (q.Allows f) := by
  intro past e he
  cases e with
  | store c => cases he
  | _ => trivial

end Request

/-! # Other turns in between -/

theorem Issued.idles {i : Access.Issuer} {past later : List Turn} {subject : SubjectId}
    {family : FamilyId} {generation : Int} {secret : Refresh.Secret} {r : Refresh.Record}
    (h : Issued i past subject family generation secret r) (hmore : ∃ more, later = past ++ more) :
    Issued i later subject family generation secret r := by
  rcases hmore with ⟨more, rfl⟩
  cases h with
  | mk hsecret hclock hid =>
      exact Issued.mk (List.mem_append_left _ hsecret) (List.mem_append_left _ hclock)
        (List.mem_append_left _ hid)

theorem Rotates.idles {i : Access.Issuer} {p : Refresh.Secret} {past later : List Turn}
    {x : Except Session.Rejection Session.Rotated} (h : Rotates i p past x)
    (hidle : Turn.Idles past later) : Rotates i p later x := by
  have hcalls := hidle.calls_eq
  rcases hidle with ⟨more, rfl, hmore⟩
  cases h with
  | renewed h hhash hstate husable hgeneration hissued =>
      exact renewed (hcalls.trans h) hhash hstate husable hgeneration (hissued.idles ⟨more, rfl⟩)
  | unknown h hnone => exact unknown (hcalls.trans h) hnone
  | withdrawn h hstate => exact withdrawn (hcalls.trans h) hstate
  | expired hpast h hexpired =>
      rename_i r t rest
      have hlater : past ++ more = found p (some r) :: ⟨.clock, t⟩ :: (rest ++ more) := by
        rw [hpast]
        rfl
      have hrest : Turn.calls (rest ++ more) = [] := by
        rw [Turn.calls_append, h, hmore]
        rfl
      exact expired hlater hrest hexpired
  | reused h hhash hstate => exact reused (hcalls.trans h) hhash hstate
  | unusable h hstate husable => exact unusable (hcalls.trans h) hstate husable
  | raced h hhash hstate husable => exact raced (hcalls.trans h) hhash hstate husable
  | late h hstate husable hlost hmatch hrejection =>
      exact late (hcalls.trans h) hstate husable hlost hmatch hrejection

end Service

end SessionAuth
