import SessionAuth.Halt
import SessionAuth.Notice
import SessionAuth.Password.Hashing
import SessionAuth.Store.Basic

/-!
# Flows

A request is a flow: a tree of single steps, each of which asks its surroundings for something
and goes on with the answer.  Between two steps anything may happen, other flows included, so a
flow says exactly what is atomic about a request and what is not.
-/

namespace SessionAuth

open Time

/-- What a flow may ask for.  A call of the store, a reading of the clock, something random and
the verification of a password are steps of their own, and so are a notice and an event. -/
inductive Effect where
  | store (c : Store.Call)
  | clock
  | freshId
  | freshSecret
  | freshSalt
  | verify (password stored : String)
  | notice (n : Notice)
  | audit (e : Audit.Event)

namespace Effect

/-- What an effect answers.  A call of the store may fail. -/
abbrev Reply : Effect → Type
  | store c => Except StoreError c.Reply
  | clock => Instant
  | freshId => Uuid
  | freshSecret => Refresh.Secret
  | freshSalt => Password.Salt
  | verify _ _ => Password.Verification
  | notice _ => Unit
  | audit _ => Unit

end Effect

inductive Flow (α : Type) where
  | done (a : α)
  | halt (h : Halt)
  | step (e : Effect) (next : e.Reply → Flow α)

namespace Flow

variable {α β σ : Type}

def andThen (x : Flow α) (f : α → Flow β) : Flow β :=
  match x with
  | done a => f a
  | halt h => halt h
  | step e next => step e (fun r => andThen (next r) f)

instance : Monad Flow where
  pure := done
  bind := andThen

@[simp] theorem pure_eq_done (a : α) : (pure a : Flow α) = done a := rfl

@[simp] theorem done_bind (a : α) (f : α → Flow β) : done a >>= f = f a := rfl

@[simp] theorem halt_bind (h : Halt) (f : α → Flow β) : halt h >>= f = halt h := rfl

@[simp] theorem step_bind (e : Effect) (next : e.Reply → Flow α) (f : α → Flow β) :
    step e next >>= f = step e (fun r => next r >>= f) := rfl

/-! # Single steps -/

def perform (e : Effect) : Flow e.Reply :=
  step e done

/-- A call of the store.  The flow halts if the call fails. -/
def call (c : Store.Call) : Flow c.Reply :=
  step (.store c) (fun r =>
    match r with
    | .ok a => done a
    | .error e => halt (.fault (.store e)))

def now : Flow Instant :=
  perform .clock

def newId (e : Entity) : Flow (Id e) := do
  return ⟨← perform .freshId⟩

def note (n : Notice) : Flow Unit :=
  perform (.notice n)

def report (kind : Audit.Kind) (subject : Option SubjectId) (outcome : Audit.Outcome)
    (context : List (String × JsonValue)) : Flow Unit := do
  let id ← newId .event
  let instant ← now
  perform (.audit ⟨id, kind, subject, outcome, .object context, instant⟩)

def ofExcept (x : Except Halt α) : Flow α :=
  match x with
  | .ok a => done a
  | .error h => halt h

/-! # Running -/

/-- Runs a flow to its end in surroundings that answer every effect. -/
def run (answer : (e : Effect) → σ → e.Reply × σ) : Flow α → σ → Except Halt α × σ
  | done a, s => (.ok a, s)
  | halt h, s => (.error h, s)
  | step e next, s => run answer (next (answer e s).1) (answer e s).2

@[simp] theorem run_done (answer : (e : Effect) → σ → e.Reply × σ) (a : α) (s : σ) :
    run answer (done a) s = (.ok a, s) := rfl

@[simp] theorem run_halt (answer : (e : Effect) → σ → e.Reply × σ) (h : Halt) (s : σ) :
    run answer (halt h : Flow α) s = (.error h, s) := rfl

@[simp] theorem run_step (answer : (e : Effect) → σ → e.Reply × σ) (e : Effect)
    (next : e.Reply → Flow α) (s : σ) :
    run answer (step e next) s = run answer (next (answer e s).1) (answer e s).2 := rfl

end Flow

end SessionAuth
