import SessionAuth.Flow.World
import SessionAuth.Permission.Engine
import SessionAuth.Proofs.Flow.Turns
import SessionAuth.Session.Facade

/-!
# A service at work

Any number of requests are in flight at once.  They take their turns one at a time and in any
order.  Between two turns operators may change accounts and shares, and a call of the store may
fail without an effect.  A request that takes no further turn stays in flight for ever, which is
how a request is broken off.
-/

namespace SessionAuth

open Time

namespace Service

/-! # Requests -/

inductive Request where
  | login (identifier password : String)
  | refresh (presented : Refresh.Secret)
  | logout (presented : Refresh.Secret)
  | changePassword (subject : SubjectId) (current new : String)
  | revokeAll (subject : SubjectId)
  | listSessions (subject : SubjectId)
  | authenticate (token : String)
  | effectiveLevel (subject : SubjectId) (resource : ResourceId)
  | decide (subject : SubjectId) (resource : ResourceId) (required : Level)
  | authorize (subject : SubjectId) (resource : ResourceId) (required : Level)
  | require (subject : SubjectId) (resource : ResourceId) (required : Level)
  | manageGrants (subject : SubjectId) (resource : ResourceId)
deriving DecidableEq

namespace Request

abbrev Reply : Request → Type
  | login _ _ => Except Failure Session.Tokens
  | refresh _ => Except Failure Session.Tokens
  | logout _ => Unit
  | changePassword _ _ _ => Except Failure Unit
  | revokeAll _ => Nat
  | listSessions _ => List Session.Info
  | authenticate _ => Except Failure Access.Verified
  | effectiveLevel _ _ => Option Level
  | decide _ _ _ => Permission.Decision
  | authorize _ _ _ => Bool
  | require _ _ _ => Except Failure Permission.Decision
  | manageGrants _ _ => Except Failure Permission.Decision

def flow (f : Session.Facade) : (q : Request) → Flow q.Reply
  | login identifier password => f.login identifier password
  | refresh presented => f.refresh presented
  | logout presented => Session.Facade.logout presented
  | changePassword subject current new => f.changePassword subject current new
  | revokeAll subject => Session.Facade.revokeAll subject
  | listSessions subject => Session.Facade.listSessions subject
  | authenticate token => f.authenticate token
  | effectiveLevel subject resource => Permission.effectiveLevel subject resource
  | decide subject resource required => Permission.decide subject resource required
  | authorize subject resource required => Permission.authorize subject resource required
  | require subject resource required => Permission.require subject resource required
  | manageGrants subject resource => Permission.ensureCanManageGrants subject resource

end Request

/-! # Operators -/

inductive Operation where
  | enroll (s : Subject)
  | setActive (id : SubjectId) (active : Bool)
  | softDelete (id : SubjectId)
  | createResource (id : ResourceId) (grant : GrantId) (owner : SubjectId)
  | putGrant (id : GrantId) (subject : SubjectId) (resource : ResourceId) (level : Level)
      (grantedBy : SubjectId)
  | revokeGrant (subject : SubjectId) (resource : ResourceId) (revokedBy : SubjectId)
  | deleteResource (id : ResourceId)

namespace Operation

def apply (now : Instant) (s : Store) : Operation → Store
  | enroll subject => { s with subjects := s.subjects.put subject }
  | setActive id active => { s with subjects := (s.subjects.setActive id active).2 }
  | softDelete id => { s with subjects := (s.subjects.softDelete now id).2 }
  | createResource id grant owner =>
      { s with shares := (s.shares.create now id grant owner).2 }
  | putGrant id subject resource level grantedBy =>
      { s with shares := (s.shares.put now id subject resource level grantedBy).2 }
  | revokeGrant subject resource revokedBy =>
      { s with shares := (s.shares.revoke now subject resource revokedBy).2 }
  | deleteResource id => { s with shares := (s.shares.delete now id).2 }

@[simp] theorem tokens_apply (now : Instant) (s : Store) (o : Operation) :
    (o.apply now s).tokens = s.tokens := by
  cases o <;> rfl

end Operation

structure Task where
  request : Request
  rest : Flow request.Reply

structure Entry where
  task : Nat
  turn : Turn

end Service

/-! # The service -/

structure Service where
  world : World
  tasks : List Service.Task
  history : List Service.Entry

namespace Service

abbrev tokens (s : Service) : Refresh.Table :=
  s.world.store.tokens

def idle (w : World) : Service :=
  ⟨w, [], []⟩

def past (s : Service) (i : Nat) : List Turn :=
  (s.history.filter (fun e => e.task == i)).map Entry.turn

/-- Tells that a task was a request and has been answered. -/
def Answered (s : Service) (i : Nat) (q : Request) (a : q.Reply) : Prop :=
  s.tasks[i]? = some ⟨q, .done a⟩

def start (f : Session.Facade) (s : Service) (q : Request) : Service :=
  { s with tasks := s.tasks ++ [⟨q, q.flow f⟩] }

def turn (s : Service) (i : Nat) (q : Request) (e : Effect) (next : e.Reply → Flow q.Reply)
    (answer : e.Reply × World) : Service :=
  { world := answer.2
    tasks := s.tasks.set i ⟨q, next answer.1⟩
    history := s.history ++ [⟨i, ⟨e, answer.1⟩⟩] }

def operate (s : Service) (o : Operation) : Service :=
  let (now, w) := s.world.readClock
  { s with world := { w with store := o.apply now w.store } }

/-! # Runs -/

inductive Action where
  | start (q : Request)
  | advance (i : Nat)
  | fail (i : Nat) (e : StoreError)
  | operate (o : Operation)

/-- The service after an action.  A task that is not there or has ended takes no turn, and only a
call of the store fails. -/
def step (f : Session.Facade) (s : Service) : Action → Service
  | .start q => s.start f q
  | .advance i =>
      match s.tasks[i]? with
      | some ⟨q, .step e next⟩ => s.turn i q e next (s.world.answer e)
      | _ => s
  | .fail i error =>
      match s.tasks[i]? with
      | some ⟨q, .step (.store c) next⟩ => s.turn i q (.store c) next (.error error, s.world)
      | _ => s
  | .operate o => s.operate o

def run (f : Session.Facade) (s : Service) (actions : List Action) : Service :=
  actions.foldl (step f) s

/-- Tells that a service may come to a later state. -/
def Reaches (f : Session.Facade) (s later : Service) : Prop :=
  ∃ actions, s.run f actions = later

/-- A world in which no refresh record was ever stored. -/
structure Fresh (w : World) : Prop where
  tokens : w.store.tokens = .empty
  keyed : ∀ id s, w.store.subjects.get? id = some s → s.id = id

/-- Tells that a service has come from a fresh world. -/
def Reachable (f : Session.Facade) (s : Service) : Prop :=
  ∃ w, Fresh w ∧ Reaches f (idle w) s

/-- The identifiers drawn so far are distinct. -/
def DistinctIds (s : Service) : Prop :=
  ∀ m n, m < s.world.drawn.ids → n < s.world.drawn.ids →
    s.world.supply.ids m = s.world.supply.ids n → m = n

end Service

end SessionAuth
