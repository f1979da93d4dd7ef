import SessionAuth.Flow.World
import SessionAuth.Proofs.Refresh.Mirror

/-!
# Flows that treat secrets alike

Two flows mirror each other if they ask for the same things, up to the secrets and the hashes that
stand for each other, and go on alike whenever the answers correspond.  Worlds that differ in
secrets alone answer such flows in corresponding ways.
-/

namespace SessionAuth

open Time Refresh

/-! # Flows without secrets -/

namespace Store.Call

def isHashFree : Call → Bool
  | insert _ => false
  | findByHash _ => false
  | transition _ _ _ _ => false
  | activeRecords _ => false
  | _ => true

end Store.Call

namespace Effect

def isSecretFree : Effect → Bool
  | store c => c.isHashFree
  | freshSecret => false
  | _ => true

end Effect

namespace Flow

/-- A flow that has nothing to do with secrets. -/
def SecretFree {α : Type} : Flow α → Prop
  | done _ => True
  | halt _ => True
  | step e next => e.isSecretFree = true ∧ ∀ r, SecretFree (next r)

section Rules

variable {α β : Type}

theorem SecretFree.bind {x : Flow α} {f : α → Flow β} (hx : SecretFree x)
    (hf : ∀ a, SecretFree (f a)) : SecretFree (x >>= f) := by
  induction x with
  | done a => exact hf a
  | halt h => trivial
  | step e next ih => exact ⟨hx.left, fun r => ih r (hx.right r)⟩

theorem secretFree_perform {e : Effect} (he : e.isSecretFree = true) : SecretFree (perform e) :=
  ⟨he, fun _ => trivial⟩

theorem secretFree_call {c : Store.Call} (hc : c.isHashFree = true) : SecretFree (call c) := by
  constructor
  · exact hc
  · intro r
    cases r with
    | ok a => trivial
    | error e => trivial

theorem secretFree_now : SecretFree now :=
  secretFree_perform rfl

theorem secretFree_newId (k : Entity) : SecretFree (newId k) :=
  (secretFree_perform (e := .freshId) rfl).bind (fun _ => trivial)

theorem secretFree_note (n : Notice) : SecretFree (note n) :=
  secretFree_perform (e := .notice n) rfl

theorem secretFree_report (kind : Audit.Kind) (subject : Option SubjectId)
    (outcome : Audit.Outcome) (context : List (String × JsonValue)) :
    SecretFree (report kind subject outcome context) := by
  apply (secretFree_newId .event).bind
  intro id
  apply secretFree_now.bind
  intro now
  exact secretFree_perform (e := .audit _) rfl

theorem secretFree_ofExcept (x : Except Halt α) : SecretFree (ofExcept x) := by
  cases x with
  | ok a => trivial
  | error h => trivial

end Rules

end Flow

namespace Refresh.Mirror

/-! # Effects -/

/-- Calls that differ in hashes alone, with the correspondence of their answers. -/
inductive Calls (m : Mirror) : (c c' : Store.Call) → (c.Reply → c'.Reply → Prop) → Prop where
  | insert {r r' : Record} (hr : m.Records r r') : Calls m (.insert r) (.insert r') (@Eq Unit)
  | findByHash {hash hash' : String} (hhash : m.Hashes hash hash') :
      Calls m (.findByHash hash) (.findByHash hash') (Option.Rel m.Records)
  | transition (id : RecordId) (expected state : State) {r r' : Record} (hr : m.Records r r') :
      Calls m (.transition id expected state (some r)) (.transition id expected state (some r'))
        (@Eq Transition)
  | activeRecords (subject : SubjectId) :
      Calls m (.activeRecords subject) (.activeRecords subject) (List.Forall₂ m.Records)

inductive Effects (m : Mirror) : (e e' : Effect) → (e.Reply → e'.Reply → Prop) → Prop where
  | same {e : Effect} (he : e.isSecretFree = true) : Effects m e e Eq
  | call {c c' : Store.Call} {P : c.Reply → c'.Reply → Prop} (hc : m.Calls c c' P) :
      Effects m (.store c) (.store c') (ExceptRel P)
  | secret : Effects m .freshSecret .freshSecret m.Secrets

/-- Flows that do the same up to secrets and hashes, and end with results that correspond. -/
inductive Flows (m : Mirror) {α β : Type} (R : α → β → Prop) : Flow α → Flow β → Prop where
  | done {a : α} {b : β} (h : R a b) : Flows m R (.done a) (.done b)
  | halt (h : Halt) : Flows m R (.halt h) (.halt h)
  | step {e e' : Effect} {P : e.Reply → e'.Reply → Prop} {next : e.Reply → Flow α}
      {next' : e'.Reply → Flow β} (he : m.Effects e e' P)
      (hnext : ∀ r r', P r r' → Flows m R (next r) (next' r')) :
      Flows m R (.step e next) (.step e' next')

variable {m : Mirror}

section Rules

variable {α β γ δ : Type} {R : α → β → Prop} {Q : γ → δ → Prop}

theorem Flows.bind {x : Flow α} {y : Flow β} {f : α → Flow γ} {g : β → Flow δ}
    (h : m.Flows R x y) (hf : ∀ a b, R a b → m.Flows Q (f a) (g b)) :
    m.Flows Q (x >>= f) (y >>= g) := by
  induction h with
  | done h => exact hf _ _ h
  | halt e => exact Flows.halt e
  | step he _ ih => exact Flows.step he ih

theorem Flows.mono {R' : α → β → Prop} {x : Flow α} {y : Flow β} (h : m.Flows R x y)
    (himp : ∀ a b, R a b → R' a b) : m.Flows R' x y := by
  induction h with
  | done h => exact Flows.done (himp _ _ h)
  | halt e => exact Flows.halt e
  | step he _ ih => exact Flows.step he ih

theorem flows_of_secretFree {x : Flow α} (hx : x.SecretFree) : m.Flows Eq x x := by
  induction x with
  | done a => exact Flows.done rfl
  | halt h => exact Flows.halt h
  | step e next ih =>
      apply Flows.step (Effects.same hx.left)
      rintro r _ rfl
      exact ih r (hx.right r)

theorem flows_after {x : Flow α} {f : α → Flow γ} {g : α → Flow δ} (hx : x.SecretFree)
    (hf : ∀ a, m.Flows Q (f a) (g a)) : m.Flows Q (x >>= f) (x >>= g) := by
  apply (flows_of_secretFree hx).bind
  rintro a _ rfl
  exact hf a

theorem flows_call {c c' : Store.Call} {P : c.Reply → c'.Reply → Prop} (hc : m.Calls c c' P) :
    m.Flows P (Flow.call c) (Flow.call c') := by
  apply Flows.step (Effects.call hc)
  intro r r' hr
  cases hr with
  | ok h => exact Flows.done h
  | error e => exact Flows.halt _

theorem flows_freshSecret :
    m.Flows m.Secrets (Flow.perform .freshSecret) (Flow.perform .freshSecret) :=
  Flows.step Effects.secret (fun _ _ hs => Flows.done hs)

end Rules

/-! # Stores and worlds -/

/-- Stores that differ in the hashes of refresh records alone. -/
structure Stores (m : Mirror) (s s' : Store) : Prop where
  subjects : s.subjects = s'.subjects
  shares : s.shares = s'.shares
  tokens : m.Tables s.tokens s'.tokens

/-- Worlds that differ in hashes and in the secrets that are yet to come.  Those at some places
stand for each other. -/
structure Worlds (m : Mirror) (places : Nat → Prop) (w w' : World) : Prop where
  clock : w.supply.clock = w'.supply.clock
  ids : w.supply.ids = w'.supply.ids
  salts : w.supply.salts = w'.supply.salts
  secrets : ∀ k, places k → m.Secrets (w.supply.secrets k) (w'.supply.secrets k)
  drawn : w.drawn = w'.drawn
  store : m.Stores w.store w'.store
  log : w.log = w'.log
  trail : w.trail = w'.trail

section Perform

variable {s s' : Store} (h : m.Stores s s') (now : Instant)
include h

theorem Stores.perform_same {c : Store.Call} (hc : c.isHashFree = true) :
    ExceptRel (fun x x' => x.1 = x'.1 ∧ m.Stores x.2 x'.2) (s.perform now c)
      (s'.perform now c) := by
  rcases s with ⟨subjects, tokens, shares⟩
  rcases s' with ⟨_, tokens', _⟩
  rcases h with ⟨rfl, rfl, htokens⟩
  have hsame : ∀ {α : Type} (a : α), ExceptRel (ε := StoreError)
      (fun x x' => x.1 = x'.1 ∧ m.Stores x.2 x'.2)
      (.ok (a, ⟨subjects, tokens, shares⟩)) (.ok (a, ⟨subjects, tokens', shares⟩)) :=
    fun a => ExceptRel.ok ⟨rfl, rfl, rfl, htokens⟩
  cases c with
  | findById id => exact hsame _
  | findByIdentifier identifier => exact hsame _
  | markPasswordChanged id hash =>
      apply (ExceptRel.refl (subjects.markPasswordChanged now id hash)).bind
      rintro d _ rfl
      exact ExceptRel.ok ⟨rfl, rfl, rfl, htokens⟩
  | recordAuthentication id instant => exact ExceptRel.ok ⟨rfl, rfl, rfl, htokens⟩
  | revokeFamily fam reason =>
      rcases htokens.revokeFamily now fam reason with ⟨hcount, htables⟩
      exact ExceptRel.ok ⟨hcount, rfl, rfl, htables⟩
  | revokeSubjectFamilies subject reason =>
      rcases htokens.revokeSubjectFamilies now subject reason with ⟨hlist, htables⟩
      exact ExceptRel.ok ⟨hlist, rfl, rfl, htables⟩
  | findResource id => exact hsame _
  | findActiveGrant subject resource => exact hsame _
  | grantHistory subject resource => exact hsame _
  | insert r => cases hc
  | findByHash hash => cases hc
  | transition id expected state successor => cases hc
  | activeRecords subject => cases hc

theorem Stores.perform {c c' : Store.Call} {P : c.Reply → c'.Reply → Prop} (hc : m.Calls c c' P) :
    ExceptRel (fun x x' => P x.1 x'.1 ∧ m.Stores x.2 x'.2) (s.perform now c)
      (s'.perform now c') := by
  cases hc with
  | insert hr =>
      apply (h.tokens.insert hr).bind
      intro t t' ht
      exact ExceptRel.ok ⟨rfl, h.subjects, h.shares, ht⟩
  | findByHash hhash => exact ExceptRel.ok ⟨h.tokens.findByHash hhash, h⟩
  | transition id expected state hr =>
      apply (h.tokens.transition now id expected state hr).bind
      rintro ⟨o, t⟩ ⟨o', t'⟩ ⟨ho, ht⟩
      exact ExceptRel.ok ⟨ho, h.subjects, h.shares, ht⟩
  | activeRecords subject => exact ExceptRel.ok ⟨h.tokens.activeRecords subject, h⟩

end Perform

section Answer

variable {places : Nat → Prop} {w w' : World} (h : m.Worlds places w w')
include h

theorem Worlds.call {c c' : Store.Call} {P : c.Reply → c'.Reply → Prop}
    (hperform : ∀ now, ExceptRel (fun x x' => P x.1 x'.1 ∧ m.Stores x.2 x'.2)
      (w.store.perform now c) (w'.store.perform now c')) :
    ExceptRel P (w.call c).1 (w'.call c').1 ∧ m.Worlds places (w.call c).2 (w'.call c').2 := by
  rcases w with ⟨⟨clock, ids, secrets, salts⟩, drawn, s, log, trail⟩
  rcases w' with ⟨⟨_, _, secrets', _⟩, _, s', _, _⟩
  rcases h with ⟨rfl, rfl, rfl, hsecrets, rfl, hstore, rfl, rfl⟩
  have hresult := hperform (clock drawn.times)
  simp only [World.call, World.readClock]
  generalize s.perform (clock drawn.times) c = x at hresult
  generalize s'.perform (clock drawn.times) c' = x' at hresult
  cases hresult with
  | ok hx => exact ⟨ExceptRel.ok hx.left, rfl, rfl, rfl, hsecrets, rfl, hx.right, rfl, rfl⟩
  | error e => exact ⟨ExceptRel.error e, rfl, rfl, rfl, hsecrets, rfl, hstore, rfl, rfl⟩

theorem Worlds.answer_same {e : Effect} (he : e.isSecretFree = true) :
    (w.answer e).1 = (w'.answer e).1 ∧ m.Worlds places (w.answer e).2 (w'.answer e).2 := by
  have hcall : ∀ c : Store.Call, c.isHashFree = true →
      (w.call c).1 = (w'.call c).1 ∧ m.Worlds places (w.call c).2 (w'.call c).2 := by
    intro c hc
    rcases h.call (fun now => h.store.perform_same now hc) with ⟨hreply, hworlds⟩
    exact ⟨hreply.eq, hworlds⟩
  cases e with
  | store c => exact hcall c he
  | freshSecret => cases he
  | _ =>
      rcases w with ⟨⟨clock, ids, secrets, salts⟩, drawn, s, log, trail⟩
      rcases w' with ⟨⟨_, _, secrets', _⟩, _, s', _, _⟩
      rcases h with ⟨rfl, rfl, rfl, hsecrets, rfl, hstore, rfl, rfl⟩
      exact ⟨rfl, rfl, rfl, rfl, hsecrets, rfl, hstore, rfl, rfl⟩

/-- Corresponding effects are answered in corresponding ways, if the secret that is drawn is at one
of the places. -/
theorem Worlds.answer {e e' : Effect} {P : e.Reply → e'.Reply → Prop} (he : m.Effects e e' P)
    (hdrawn : w.drawn.secrets < (w.answer e).2.drawn.secrets →
      w'.drawn.secrets < (w'.answer e').2.drawn.secrets → places w.drawn.secrets) :
    P (w.answer e).1 (w'.answer e').1 ∧ m.Worlds places (w.answer e).2 (w'.answer e').2 := by
  cases he with
  | same he => exact h.answer_same he
  | call hc => exact h.call (fun now => h.store.perform now hc)
  | secret =>
      have hsecret := h.secrets _ (hdrawn (Nat.lt_succ_self _) (Nat.lt_succ_self _))
      rcases w with ⟨⟨clock, ids, secrets, salts⟩, drawn, s, log, trail⟩
      rcases w' with ⟨⟨_, _, secrets', _⟩, _, s', _, _⟩
      rcases h with ⟨rfl, rfl, rfl, hsecrets, rfl, hstore, rfl, rfl⟩
      exact ⟨hsecret, rfl, rfl, rfl, hsecrets, rfl, hstore, rfl, rfl⟩

end Answer

end Refresh.Mirror

end SessionAuth
