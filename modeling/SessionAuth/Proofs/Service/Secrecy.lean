import SessionAuth.Proofs.Service.Alone
import SessionAuth.Proofs.Session.Mirror

/-!
# Secrets stay secret

A run is made twice with the same inputs, the same clock and the same identifiers, but with other
secrets.  Whoever looks at the store, the trail, the log and the answers finds no difference, apart
from the hashes and from the secrets that are handed out.
-/

namespace SessionAuth

open Time Refresh

namespace Service

/-! # Runs in which secrets have names -/

/-- A secret as a run names it: a fixed one, or the one that is drawn at a place. -/
inductive SecretName where
  | fixed (s : Secret)
  | drawn (n : Nat)
deriving DecidableEq

def SecretName.value (secrets : Nat → Secret) : SecretName → Secret
  | fixed s => s
  | drawn n => secrets n

def Request.presented? : Request → Option Secret
  | refresh p => some p
  | logout p => some p
  | _ => none

/-- A request that presents a secret by its name, if it presents one. -/
inductive NamedRequest where
  | refresh (p : SecretName)
  | logout (p : SecretName)
  | other (q : Request) (h : q.presented? = none)

namespace NamedRequest

def presented? : NamedRequest → Option SecretName
  | refresh p => some p
  | logout p => some p
  | other _ _ => none

def value (secrets : Nat → Secret) : NamedRequest → Request
  | refresh p => .refresh (p.value secrets)
  | logout p => .logout (p.value secrets)
  | other q _ => q

def bare (t : Session.Tokens) : Session.Tokens :=
  { t with refresh := ⟨""⟩ }

/-- Answers that are the same, but for the refresh secrets that they hand out. -/
def SameAnswer (secrets secrets' : Nat → Secret) :
    (q : NamedRequest) → (q.value secrets).Reply → (q.value secrets').Reply → Prop
  | refresh _, a, a' => Except.map bare a = Except.map bare a'
  | other (.login _ _) _, a, a' => Except.map bare a = Except.map bare a'
  | logout _, a, a' => a = a'
  | other _ _, a, a' => a = a'

end NamedRequest

inductive NamedAction where
  | start (q : NamedRequest)
  | advance (i : Nat)
  | fail (i : Nat) (e : StoreError)
  | operate (o : Operation)

namespace NamedAction

def value (secrets : Nat → Secret) : NamedAction → Action
  | start q => .start (q.value secrets)
  | advance i => .advance i
  | fail i e => .fail i e
  | operate o => .operate o

def request? : NamedAction → Option NamedRequest
  | start q => some q
  | _ => none

end NamedAction

/-- The names of the secrets that some actions present, and of those that are drawn from one place
on up to another one. -/
def Mentions (script : List NamedAction) (first last : Nat) (a : SecretName) : Prop :=
  (∃ q ∈ script.filterMap NamedAction.request?, q.presented? = some a) ∨
    ∃ k, first ≤ k ∧ k < last ∧ a = .drawn k

/-- No two names stand for secrets with the same hash. -/
def DistinctHashes (names : SecretName → Prop) (secrets : Nat → Secret) : Prop :=
  ∀ a b, names a → names b → (a.value secrets).hash = (b.value secrets).hash → a = b

/-- Tables that are the same but for the hashes of the records and the keys of the index. -/
structure SameButHashes (t t' : Table) : Prop where
  records : t.records.entries.map (fun e => (e.1, { e.2 with tokenHash := "" })) =
    t'.records.entries.map (fun e => (e.1, { e.2 with tokenHash := "" }))
  byHash : t.byHash.values = t'.byHash.values
  families : t.families = t'.families

/-- Services that show no difference to whoever does not look at secrets and hashes. -/
structure Indistinct (secrets secrets' : Nat → Secret) (requests : List NamedRequest)
    (s s' : Service) : Prop where
  subjects : s.world.store.subjects = s'.world.store.subjects
  shares : s.world.store.shares = s'.world.store.shares
  tokens : SameButHashes s.tokens s'.tokens
  trail : s.world.trail = s'.world.trail
  log : s.world.log = s'.world.log
  answered : ∀ (i : Nat) (q : NamedRequest) a, requests[i]? = some q →
    s.Answered i (q.value secrets) a →
      ∃ a', s'.Answered i (q.value secrets') a' ∧ q.SameAnswer secrets secrets' a a'
  answered' : ∀ (i : Nat) (q : NamedRequest) a', requests[i]? = some q →
    s'.Answered i (q.value secrets') a' →
      ∃ a, s.Answered i (q.value secrets) a ∧ q.SameAnswer secrets secrets' a a'
  halted : ∀ (i : Nat) (q : NamedRequest) h, requests[i]? = some q →
    (s.tasks[i]? = some ⟨q.value secrets, .halt h⟩ ↔
      s'.tasks[i]? = some ⟨q.value secrets', .halt h⟩)

/-! # Requests side by side -/

open Mirror

theorem map_bare_eq {m : Mirror} {a a' : Except Failure Session.Tokens}
    (h : ExceptRel m.Credentials a a') :
    Except.map NamedRequest.bare a = Except.map NamedRequest.bare a' := by
  cases h with
  | error e => rfl
  | ok h =>
      cases h
      rfl

theorem flows_other {m : Mirror} (f : Session.Facade) (secrets secrets' : Nat → Secret)
    (q : Request) (hq : q.presented? = none) :
    m.Flows (NamedRequest.SameAnswer secrets secrets' (.other q hq)) (q.flow f) (q.flow f) := by
  cases q with
  | login identifier password =>
      exact (flows_login f identifier password).mono (fun _ _ h => map_bare_eq h)
  | refresh p => cases hq
  | logout p => cases hq
  | changePassword subject current new =>
      exact flows_of_secretFree (f.secretFree_changePassword subject current new)
  | revokeAll subject => exact flows_of_secretFree (Session.Facade.secretFree_revokeAll subject)
  | listSessions subject => exact flows_listSessions subject
  | authenticate token => exact flows_of_secretFree (f.secretFree_authenticate token)
  | effectiveLevel subject resource =>
      exact flows_of_secretFree (Permission.secretFree_effectiveLevel subject resource)
  | decide subject resource required =>
      exact flows_of_secretFree (Permission.secretFree_decide subject resource required)
  | authorize subject resource required =>
      exact flows_of_secretFree
        ((Permission.secretFree_decide subject resource required).bind (fun _ => trivial))
  | require subject resource required =>
      exact flows_of_secretFree (Permission.secretFree_require subject resource required)
  | manageGrants subject resource =>
      exact flows_of_secretFree (Permission.secretFree_require subject resource .owner)

theorem NamedRequest.flows {m : Mirror} (f : Session.Facade) {secrets secrets' : Nat → Secret}
    (q : NamedRequest)
    (hq : ∀ a, q.presented? = some a → m.Secrets (a.value secrets) (a.value secrets')) :
    m.Flows (q.SameAnswer secrets secrets') ((q.value secrets).flow f)
      ((q.value secrets').flow f) := by
  cases q with
  | refresh p => exact (flows_refresh f (hq p rfl)).mono (fun _ _ h => map_bare_eq h)
  | logout p => exact flows_logout (hq p rfl)
  | other q h => exact flows_other f secrets secrets' q h

/-! # Services side by side -/

/-- Services whose worlds differ in secrets and hashes alone, and whose tasks mirror each other. -/
structure Twins (m : Mirror) (places : Nat → Prop) (secrets secrets' : Nat → Secret)
    (requests : List NamedRequest) (s s' : Service) : Prop where
  worlds : m.Worlds places s.world s'.world
  length : s.tasks.length = requests.length
  length' : s'.tasks.length = requests.length
  tasks : ∀ (i : Nat) (q : NamedRequest), requests[i]? = some q → ∃ x x',
    s.tasks[i]? = some ⟨q.value secrets, x⟩ ∧ s'.tasks[i]? = some ⟨q.value secrets', x'⟩ ∧
      m.Flows (q.SameAnswer secrets secrets') x x'

variable {m : Mirror} {places : Nat → Prop} {secrets secrets' : Nat → Secret}
  {requests : List NamedRequest} {s s' : Service} {f : Session.Facade}

theorem step_fail {i : Nat} {q : Request} {c : Store.Call}
    {next : (Effect.store c).Reply → Flow q.Reply}
    (h : s.tasks[i]? = some ⟨q, .step (.store c) next⟩) (e : StoreError) :
    s.step f (.fail i e) = s.turn i q (.store c) next (.error e, s.world) := by
  simp only [step, h]

theorem stores_apply {x x' : Store} (h : m.Stores x x') (now : Instant) (o : Operation) :
    m.Stores (o.apply now x) (o.apply now x') := by
  rcases x with ⟨subjects, tokens, shares⟩
  rcases x' with ⟨_, tokens', _⟩
  rcases h with ⟨rfl, rfl, htokens⟩
  cases o <;> exact ⟨rfl, rfl, htokens⟩

namespace Twins

variable (h : Twins m places secrets secrets' requests s s')
include h

theorem start (q : NamedRequest)
    (hq : ∀ a, q.presented? = some a → m.Secrets (a.value secrets) (a.value secrets')) :
    Twins m places secrets secrets' (requests ++ [q]) (s.start f (q.value secrets))
      (s'.start f (q.value secrets')) where
  worlds := h.worlds
  length := by simp [Service.start, h.length]
  length' := by simp [Service.start, h.length']
  tasks := by
    intro i q' hq'
    rcases Nat.lt_trichotomy i requests.length with hlt | rfl | hgt
    · rw [List.getElem?_append_left hlt] at hq'
      rcases h.tasks i q' hq' with ⟨x, x', hx, hx', hflows⟩
      refine ⟨x, x', ?_, ?_, hflows⟩
      · rw [Service.start, List.getElem?_append_left (h.length ▸ hlt), hx]
      · rw [Service.start, List.getElem?_append_left (h.length' ▸ hlt), hx']
    · rw [List.getElem?_concat_length] at hq'
      cases hq'
      refine ⟨_, _, ?_, ?_, q.flows f hq⟩
      · rw [Service.start, ← h.length]
        exact List.getElem?_concat_length
      · rw [Service.start, ← h.length']
        exact List.getElem?_concat_length
    · rw [List.getElem?_eq_none (by simp; omega)] at hq'
      cases hq'

/-- A turn that both tasks take leaves services side by side. -/
theorem turn {i : Nat} {q : NamedRequest} (hq : requests[i]? = some q) {e e' : Effect}
    {next : e.Reply → Flow (q.value secrets).Reply}
    {next' : e'.Reply → Flow (q.value secrets').Reply} {x : e.Reply × World}
    {x' : e'.Reply × World} (hworlds : m.Worlds places x.2 x'.2)
    (hflows : m.Flows (q.SameAnswer secrets secrets') (next x.1) (next' x'.1)) :
    Twins m places secrets secrets' requests (s.turn i (q.value secrets) e next x)
      (s'.turn i (q.value secrets') e' next' x') where
  worlds := hworlds
  length := by simp [Service.turn, h.length]
  length' := by simp [Service.turn, h.length']
  tasks := by
    intro k q' hq'
    simp only [Service.turn]
    by_cases hk : k = i
    · subst hk
      rw [hq] at hq'
      cases hq'
      have hlt : k < requests.length := (List.getElem?_eq_some_iff.mp hq).1
      refine ⟨_, _, ?_, ?_, hflows⟩
      · exact List.getElem?_set_self (h.length ▸ hlt)
      · exact List.getElem?_set_self (h.length' ▸ hlt)
    · rw [List.getElem?_set_ne (Ne.symm hk), List.getElem?_set_ne (Ne.symm hk)]
      exact h.tasks k q' hq'

theorem operate (o : Operation) :
    Twins m places secrets secrets' requests (s.operate o) (s'.operate o) where
  worlds := by
    rcases s with ⟨⟨⟨clock, ids, drawing, salts⟩, drawn, store, log, trail⟩, tasks, history⟩
    rcases s' with ⟨⟨⟨_, _, drawing', _⟩, _, store', _, _⟩, tasks', history'⟩
    rcases h.worlds with ⟨rfl, rfl, rfl, hsecrets, rfl, hstore, rfl, rfl⟩
    exact ⟨rfl, rfl, rfl, hsecrets, rfl, stores_apply hstore _ o, rfl, rfl⟩
  length := h.length
  length' := h.length'
  tasks := h.tasks

theorem task_cases (i : Nat) :
    (∀ a : Action, a = .advance i ∨ (∃ e, a = .fail i e) → s.step f a = s ∧ s'.step f a = s') ∨
    ∃ (q : NamedRequest) (e e' : Effect) (P : e.Reply → e'.Reply → Prop)
        (next : e.Reply → Flow (q.value secrets).Reply)
        (next' : e'.Reply → Flow (q.value secrets').Reply),
      requests[i]? = some q ∧ s.tasks[i]? = some ⟨q.value secrets, .step e next⟩ ∧
        s'.tasks[i]? = some ⟨q.value secrets', .step e' next'⟩ ∧ m.Effects e e' P ∧
        ∀ r r', P r r' → m.Flows (q.SameAnswer secrets secrets') (next r) (next' r') := by
  cases hq : requests[i]? with
  | none =>
      have hle := List.getElem?_eq_none_iff.mp hq
      have hnone : s.tasks[i]? = none := List.getElem?_eq_none (h.length ▸ hle)
      have hnone' : s'.tasks[i]? = none := List.getElem?_eq_none (h.length' ▸ hle)
      refine Or.inl ?_
      rintro _ (rfl | ⟨e, rfl⟩) <;> simp only [Service.step, hnone, hnone', and_self]
  | some q =>
      rcases h.tasks i q hq with ⟨x, x', hx, hx', hflows⟩
      cases hflows with
      | done _ =>
          refine Or.inl ?_
          rintro _ (rfl | ⟨e, rfl⟩) <;> simp only [Service.step, hx, hx', and_self]
      | halt _ =>
          refine Or.inl ?_
          rintro _ (rfl | ⟨e, rfl⟩) <;> simp only [Service.step, hx, hx', and_self]
      | step he hnext => exact Or.inr ⟨q, _, _, _, _, _, rfl, hx, hx', he, hnext⟩

theorem advance (i : Nat)
    (hdrawn : s.world.drawn.secrets < (s.step f (.advance i)).world.drawn.secrets →
      s'.world.drawn.secrets < (s'.step f (.advance i)).world.drawn.secrets →
      places s.world.drawn.secrets) :
    Twins m places secrets secrets' requests (s.step f (.advance i)) (s'.step f (.advance i)) := by
  rcases h.task_cases (f := f) i with hidle | ⟨q, e, e', P, next, next', hq, hx, hx', he, hnext⟩
  · rcases hidle _ (Or.inl rfl) with ⟨hs, hs'⟩
    rw [hs, hs']
    exact h
  · rw [step_advance hx, step_advance hx'] at hdrawn ⊢
    rcases h.worlds.answer he hdrawn with ⟨hreply, hworlds⟩
    exact h.turn hq hworlds (hnext _ _ hreply)

theorem fail (i : Nat) (error : StoreError) :
    Twins m places secrets secrets' requests (s.step f (.fail i error))
      (s'.step f (.fail i error)) := by
  rcases h.task_cases (f := f) i with hidle | ⟨q, e, e', P, next, next', hq, hx, hx', he, hnext⟩
  · rcases hidle _ (Or.inr ⟨error, rfl⟩) with ⟨hs, hs'⟩
    rw [hs, hs']
    exact h
  · cases he with
    | call hc =>
        rw [step_fail hx, step_fail hx']
        exact h.turn hq h.worlds (hnext _ _ (ExceptRel.error error))
    | secret =>
        simp only [Service.step, hx, hx']
        exact h
    | same he =>
        cases e with
        | store c =>
            rw [step_fail hx, step_fail hx']
            exact h.turn hq h.worlds (hnext _ _ rfl)
        | _ =>
            simp only [Service.step, hx, hx']
            exact h

/-- One action leaves services side by side, if the secret that it draws is at one of the places. -/
theorem step (a : NamedAction)
    (hpresented : ∀ q p, a.request? = some q → q.presented? = some p →
      m.Secrets (p.value secrets) (p.value secrets'))
    (hdrawn : s.world.drawn.secrets < (s.step f (a.value secrets)).world.drawn.secrets →
      s'.world.drawn.secrets < (s'.step f (a.value secrets')).world.drawn.secrets →
      places s.world.drawn.secrets) :
    Twins m places secrets secrets' (requests ++ a.request?.toList) (s.step f (a.value secrets))
      (s'.step f (a.value secrets')) := by
  cases a with
  | start q => exact h.start q (fun p hp => hpresented q p rfl hp)
  | advance i =>
      change Twins _ _ _ _ (requests ++ []) _ _
      rw [List.append_nil]
      exact h.advance i hdrawn
  | fail i e =>
      change Twins _ _ _ _ (requests ++ []) _ _
      rw [List.append_nil]
      exact h.fail i e
  | operate o =>
      change Twins _ _ _ _ (requests ++ []) _ _
      rw [List.append_nil]
      exact h.operate o

/-- Services side by side stay so along a run. -/
theorem run (script : List NamedAction)
    (hpresented : ∀ q ∈ script.filterMap NamedAction.request?, ∀ p, q.presented? = some p →
      m.Secrets (p.value secrets) (p.value secrets'))
    (hdrawn : ∀ k, s.world.drawn.secrets ≤ k →
      k < (s.run f (script.map (NamedAction.value secrets))).world.drawn.secrets →
      k < (s'.run f (script.map (NamedAction.value secrets'))).world.drawn.secrets → places k) :
    Twins m places secrets secrets' (requests ++ script.filterMap NamedAction.request?)
      (s.run f (script.map (NamedAction.value secrets)))
      (s'.run f (script.map (NamedAction.value secrets'))) := by
  induction script generalizing requests s s' with
  | nil =>
      change Twins _ _ _ _ (requests ++ []) s s'
      rw [List.append_nil]
      exact h
  | cons a script ih =>
      have hlater := (Reaches.precedes (f := f)
        (s := s.step f (a.value secrets)) ⟨script.map (NamedAction.value secrets), rfl⟩).secrets
      have hlater' := (Reaches.precedes (f := f)
        (s := s'.step f (a.value secrets')) ⟨script.map (NamedAction.value secrets'), rfl⟩).secrets
      have hbefore := (step_cases f s (a.value secrets)).precedes.secrets
      have hsame := h.worlds.drawn
      -- What this step draws in both runs lies before the places at which they end.
      have hstep := h.step (f := f) a
        (by
          intro q p hq hp
          apply hpresented q _ p hp
          rw [List.filterMap_cons, hq]
          exact List.mem_cons_self)
        (by
          intro hgrows hgrows'
          rw [← hsame] at hgrows'
          exact hdrawn _ (Nat.le_refl _) (Nat.lt_of_lt_of_le hgrows hlater)
            (Nat.lt_of_lt_of_le hgrows' hlater'))
      have hrun := ih hstep
        (by
          intro q hq
          apply hpresented q
          rw [List.mem_filterMap] at hq ⊢
          rcases hq with ⟨b, hb, hvalue⟩
          exact ⟨b, List.mem_cons_of_mem a hb, hvalue⟩)
        (fun k hk hn hn' => hdrawn k (Nat.le_trans hbefore hk) hn hn')
      have hrequests : (a :: script).filterMap NamedAction.request? =
          a.request?.toList ++ script.filterMap NamedAction.request? := by
        rw [List.filterMap_cons]
        cases a.request? <;> rfl
      rw [hrequests, ← List.append_assoc]
      exact hrun

end Twins

/-! # What can be seen -/

theorem sameButHashes_of_tables {t t' : Table} (h : m.Tables t t') : SameButHashes t t' where
  records := by
    have hrecords := h.records
    unfold Registry.Mirrored at hrecords
    generalize t.records.entries = xs at hrecords
    generalize t'.records.entries = ys at hrecords
    induction hrecords with
    | nil => rfl
    | @cons e e' xs ys he _ ih =>
        rcases e with ⟨id, r⟩
        rcases e' with ⟨id', r'⟩
        rcases he with ⟨hid, hr⟩
        dsimp only at hid hr
        subst hid
        cases hr
        rw [List.map_cons, List.map_cons, ih]
  byHash := List.forall₂_eq_eq_eq ▸ h.byHash.values
  families := h.families

theorem rest_inj {q : Request} {x y : Flow q.Reply} (h : some (⟨q, x⟩ : Task) = some ⟨q, y⟩) :
    x = y := by
  injection h with htask
  injection htask

section Ends

variable {i : Nat} {q : NamedRequest} (h : Twins m places secrets secrets' requests s s')
  (hq : requests[i]? = some q)
include h hq

theorem Twins.answered {a : (q.value secrets).Reply} (ha : s.Answered i (q.value secrets) a) :
    ∃ a', s'.Answered i (q.value secrets') a' ∧ q.SameAnswer secrets secrets' a a' := by
  rcases h.tasks i q hq with ⟨x, x', hx, hx', hflows⟩
  cases rest_inj (hx.symm.trans ha)
  cases hflows with
  | done hsame => exact ⟨_, hx', hsame⟩

theorem Twins.answered' {a' : (q.value secrets').Reply}
    (ha : s'.Answered i (q.value secrets') a') :
    ∃ a, s.Answered i (q.value secrets) a ∧ q.SameAnswer secrets secrets' a a' := by
  rcases h.tasks i q hq with ⟨x, x', hx, hx', hflows⟩
  cases rest_inj (hx'.symm.trans ha)
  cases hflows with
  | done hsame => exact ⟨_, hx, hsame⟩

theorem Twins.halted {e : Halt} :
    s.tasks[i]? = some ⟨q.value secrets, .halt e⟩ ↔
      s'.tasks[i]? = some ⟨q.value secrets', .halt e⟩ := by
  rcases h.tasks i q hq with ⟨x, x', hx, hx', hflows⟩
  constructor
  · intro hhalt
    cases rest_inj (hx.symm.trans hhalt)
    cases hflows
    exact hx'
  · intro hhalt
    cases rest_inj (hx'.symm.trans hhalt)
    cases hflows
    exact hx

end Ends

theorem Twins.indistinct (h : Twins m places secrets secrets' requests s s') :
    Indistinct secrets secrets' requests s s' where
  subjects := h.worlds.store.subjects
  shares := h.worlds.store.shares
  tokens := sameButHashes_of_tables h.worlds.store.tokens
  trail := h.worlds.trail
  log := h.worlds.log
  answered := fun _ _ _ hq ha => h.answered hq ha
  answered' := fun _ _ _ hq ha => h.answered' hq ha
  halted := fun _ _ _ hq => h.halted hq

/-! # The two runs -/

/-- Secrets of the same name stand for each other, as long as names have hashes of their own. -/
def mirror {names names' : SecretName → Prop} (h : DistinctHashes names secrets)
    (h' : DistinctHashes names' secrets') : Mirror where
  Secrets := fun p p' => ∃ a, names a ∧ names' a ∧ a.value secrets = p ∧ a.value secrets' = p'
  faithful := by
    rintro _ _ _ _ ⟨a, ha, ha', rfl, rfl⟩ ⟨b, hb, hb', rfl, rfl⟩
    constructor
    · intro heq
      rw [h a b ha hb heq]
    · intro heq
      rw [h' a b ha' hb' heq]

/-- Nothing but the returned secret depends on a secret other than through its hash.  Whatever a
service does from an empty table on, it does the same if its new secrets are other ones, so long as
in each run the secrets that are presented and those that are drawn have different hashes: it comes
to the same accounts, shares, events and notices, to the same table but for the hashes, and to the
same answers but for the refresh secrets. -/
theorem secrets_stay_secret {w : World} (hw : Fresh w) (script : List NamedAction)
    (secrets' : Nat → Secret) :
    let w' : World := { w with supply := { w.supply with secrets := secrets' } }
    let s := (idle w).run f (script.map (NamedAction.value w.supply.secrets))
    let s' := (idle w').run f (script.map (NamedAction.value secrets'))
    DistinctHashes (Mentions script w.drawn.secrets s.world.drawn.secrets) w.supply.secrets →
    DistinctHashes (Mentions script w.drawn.secrets s'.world.drawn.secrets) secrets' →
    Indistinct w.supply.secrets secrets' (script.filterMap NamedAction.request?) s s' := by
  intro w' s s' hdistinct hdistinct'
  -- Only the places up to which both runs draw have secrets that are known to be distinct.
  let places : Nat → Prop := fun k => w.drawn.secrets ≤ k ∧ k < s.world.drawn.secrets ∧
    k < s'.world.drawn.secrets
  have htokens : (mirror hdistinct hdistinct').Tables w.store.tokens w.store.tokens := by
    rw [hw.tokens]
    exact ⟨List.Forall₂.nil, List.Forall₂.nil, rfl⟩
  have hidle : Twins (mirror hdistinct hdistinct') places w.supply.secrets secrets' [] (idle w)
      (idle w') := by
    refine ⟨⟨rfl, rfl, rfl, ?_, rfl, ⟨rfl, rfl, htokens⟩, rfl, rfl⟩, rfl, rfl, ?_⟩
    · rintro k ⟨hfirst, hlast, hlast'⟩
      exact ⟨.drawn k, Or.inr ⟨k, hfirst, hlast, rfl⟩, Or.inr ⟨k, hfirst, hlast', rfl⟩, rfl, rfl⟩
    · intro i q hq
      cases hq
  have hrun : Twins (mirror hdistinct hdistinct') places w.supply.secrets secrets'
      ([] ++ script.filterMap NamedAction.request?) s s' := by
    apply hidle.run script
    · intro q hq a ha
      exact ⟨a, Or.inl ⟨q, hq, ha⟩, Or.inl ⟨q, hq, ha⟩, rfl, rfl⟩
    · intro k hfirst hlast hlast'
      exact ⟨hfirst, hlast, hlast'⟩
  exact hrun.indistinct

namespace Sample

def script : List NamedAction :=
  (.start (.other login rfl) :: List.replicate 2 (.advance 0)) ++
    (List.replicate 13 (.advance 0) ++ .start (.refresh (.drawn 0)) ::
      List.replicate 16 (.advance 1) ++ .start (.logout (.fixed ⟨"guess"⟩)) ::
        List.replicate 2 (.advance 2))

def otherSecrets (n : Nat) : Secret :=
  .ofOctets [UInt8.ofNat (n + 7)]

theorem drawn_script (w : World) (secrets : Nat → Secret)
    (hw : w = { world with supply := { world.supply with secrets := secrets } })
    (h : secrets = world.supply.secrets ∨ secrets = otherSecrets) :
    ((idle w).run facade (script.map (NamedAction.value secrets))).world.drawn.secrets = 2 := by
  have hopening : script.map (NamedAction.value secrets) =
      (.start login :: List.replicate 2 (.advance 0)) ++
        script.tail.tail.tail.map (NamedAction.value secrets) := rfl
  rw [hw, hopening, run_append, run_verified facade { world.supply with secrets := secrets }]
  rcases h with rfl | rfl
  · decide +kernel
  · decide +kernel

theorem distinctHashes_script {secrets : Nat → Secret} {n : Nat} (hn : n = 2)
    (h : ∀ a ∈ [SecretName.drawn 0, .drawn 1, .fixed ⟨"guess"⟩],
      ∀ b ∈ [SecretName.drawn 0, .drawn 1, .fixed ⟨"guess"⟩],
        (a.value secrets).hash = (b.value secrets).hash → a = b) :
    DistinctHashes (Mentions script 0 n) secrets := by
  subst hn
  have hnames : ∀ a, Mentions script 0 2 a →
      a ∈ [SecretName.drawn 0, .drawn 1, .fixed ⟨"guess"⟩] := by
    rintro a (⟨q, hq, ha⟩ | ⟨k, _, hk, rfl⟩)
    · change q ∈ [NamedRequest.other login rfl, .refresh (.drawn 0),
        .logout (.fixed ⟨"guess"⟩)] at hq
      simp only [List.mem_cons, List.not_mem_nil, or_false] at hq
      rcases hq with rfl | rfl | rfl
      · cases ha
      · cases ha
        simp
      · cases ha
        simp
    · rcases k with _ | _ | k
      · simp
      · simp
      · omega
  intro a b ha hb
  exact h a (hnames a ha) b (hnames b hb)

end Sample

/-- A login, a refresh and a logout cannot be told from those with other secrets. -/
theorem secrets_stay_secret_script :
    Indistinct Sample.world.supply.secrets Sample.otherSecrets
      (Sample.script.filterMap NamedAction.request?)
      ((idle Sample.world).run Sample.facade
        (Sample.script.map (NamedAction.value Sample.world.supply.secrets)))
      ((idle { Sample.world with
          supply := { Sample.world.supply with secrets := Sample.otherSecrets } }).run Sample.facade
        (Sample.script.map (NamedAction.value Sample.otherSecrets))) := by
  apply secrets_stay_secret Sample.fresh_world Sample.script Sample.otherSecrets
  · apply Sample.distinctHashes_script
    · exact Sample.drawn_script _ _ rfl (Or.inl rfl)
    · decide +kernel
  · apply Sample.distinctHashes_script
    · exact Sample.drawn_script _ _ rfl (Or.inr rfl)
    · decide +kernel

end Service

end SessionAuth
