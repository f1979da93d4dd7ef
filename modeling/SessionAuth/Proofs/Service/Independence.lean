import SessionAuth.Proofs.Flow.Confinement
import SessionAuth.Proofs.Service.Atomicity

/-!
# Independence of families

A refresh or a logout has to do with the family of the presented secret and with nothing else in
the table, so that two of them for different families may come in either order.
-/

namespace SessionAuth

open Time Refresh

/-! # Requests that stay within a family -/

namespace Session

open Scope

variable {σ : Scope} {w : World} {p : Secret} {r : Record}

theorem stays_revokeForReuse (hfamily : r.family = σ.family) : σ.Stays (revokeForReuse r) w := by
  unfold revokeForReuse
  rw [hfamily]
  apply stays_call (Permits.revokeFamily _)
  intro records u _
  exact stays_note trivial

theorem stays_revokeForSubject (hfamily : r.family = σ.family) :
    σ.Stays (revokeForSubject r) w := by
  unfold revokeForSubject
  rw [hfamily]
  apply stays_call (Permits.revokeFamily _)
  intro records u _
  exact stays_note trivial

/-- Tells that the next record of a family may be what an exchange in a world issues. -/
structure Foresees (σ : Scope) (w : World) : Prop where
  place : σ.ids ⟨w.uuid 1⟩
  hash : σ.hashes w.secret.hash
  unused : w.store.tokens.records.get? ⟨w.uuid 1⟩ = none

theorem stays_exchange (i : Access.Issuer) (x : Subject) (hforesees : Foresees σ w)
    (hr : w.store.tokens.records.get? r.id = some r) (hfamily : r.family = σ.family) :
    σ.Stays (exchange i x r) w := by
  unfold exchange issueAccess issueRefresh
  refine stays_step (e := .clock) (fun _ => nofun) (stays_step (e := .freshId) (fun _ => nofun) ?_)
  change σ.Stays (Flow.ofExcept (i.issueAccess (w.instant 0) ⟨w.uuid 0⟩ x.id x.admin
    (some r.family)) >>= _) w.tick.drawId.2
  cases i.issueAccess (w.instant 0) ⟨w.uuid 0⟩ x.id x.admin (some r.family) with
  | error e => trivial
  | ok access =>
      change σ.Stays (Flow.ofExcept (nextGeneration r.generation) >>= _) w.tick.drawId.2
      cases nextGeneration r.generation with
      | error e => trivial
      | ok generation =>
          have hallows : σ.Allows w.store.tokens r (issued i w x r generation) :=
            ⟨hr, hfamily, hfamily, hforesees.place, hforesees.hash, hforesees.unused⟩
          -- The access token has taken one identifier, so that the record takes the next one.
          refine stays_step (e := .freshSecret) (fun _ => nofun) (stays_step (e := .clock)
            (fun _ => nofun) (stays_step (e := .freshId) (fun _ => nofun) ?_))
          apply stays_call (w := prepared w) (Permits.exchange hallows)
          intro o u _
          cases o with
          | applied => exact stays_note trivial
          | stateMismatch current =>
              cases current with
              | consumed => exact (stays_revokeForReuse hfamily).bind (fun _ _ _ => trivial)
              | active => trivial
              | revoked => trivial
          | familyRevoked => trivial
          | notFound => trivial

theorem stays_advance (i : Access.Issuer) (hforesees : Foresees σ w)
    (hr : w.store.tokens.records.get? r.id = some r) (hfamily : r.family = σ.family) :
    σ.Stays (advance i r) w := by
  unfold advance
  apply stays_call (Permits.findById _)
  intro y u hperform
  cases hperform
  cases w.store.subjects.findById r.subject with
  | none => exact (stays_revokeForSubject hfamily).bind (fun _ _ _ => trivial)
  | some x =>
      dsimp only
      split
      · exact stays_exchange i x ⟨hforesees.place, hforesees.hash, hforesees.unused⟩ hr hfamily
      · exact (stays_revokeForSubject hfamily).bind (fun _ _ _ => trivial)

section Presented

variable (ht : w.store.tokens.Coherent) (hfound : w.store.tokens.findByHash p.hash = some r)
  (hpresented : p.hash = σ.presented) (hfamily : r.family = σ.family)
include ht hfound hpresented hfamily

theorem stays_findPresented {α : Type} {f : Option Record → Flow α}
    (hf : σ.Stays (f (some r)) w.tick) : σ.Stays (findPresented p >>= f) w := by
  have hown : r.belongsTo p = true := by
    simp [Record.belongsTo, (ht.get?_of_findByHash hfound).right]
  have hpermits : σ.Permits w.store.tokens (.findByHash p.hash) := by
    rw [hpresented] at hfound ⊢
    exact Permits.findByHash hfound hfamily
  unfold findPresented
  refine Stays.bind (stays_call hpermits ?_) ?_
  · intro y u _
    trivial
  · intro y w' hrun
    have hfilter : (w.store.tokens.findByHash p.hash).filter (fun r => r.belongsTo p) = some r := by
      rw [hfound, Option.filter_some, if_pos hown]
    cases hrun
    rw [hfilter]
    exact hf

theorem stays_rotate (i : Access.Issuer) (hforesees : Foresees σ w) : σ.Stays (rotate i p) w := by
  unfold rotate
  apply stays_findPresented ht hfound hpresented hfamily
  have hr := (ht.get?_of_findByHash hfound).left
  dsimp only
  split
  · exact stays_note trivial
  · apply stays_now
    split
    · trivial
    · split
      · exact (stays_revokeForReuse hfamily).bind (fun _ _ _ => trivial)
      · exact stays_advance i ⟨hforesees.place, hforesees.hash, hforesees.unused⟩ hr hfamily

theorem stays_refresh (f : Facade) (hforesees : Foresees σ w) : σ.Stays (f.refresh p) w := by
  unfold Facade.refresh
  apply (stays_rotate ht hfound hpresented hfamily f.issuer hforesees).bind
  intro result w' _
  cases result with
  | ok o => exact (stays_report _ _ _ _).bind (fun _ _ _ => trivial)
  | error rejection =>
      apply Stays.bind
      · cases rejection <;> exact stays_report _ _ _ _
      · intro _ _ _
        trivial

theorem stays_logout : σ.Stays (Facade.logout p) w := by
  have hrevoke : σ.Stays (revokePresented p .logout) w := by
    unfold revokePresented
    apply stays_findPresented ht hfound hpresented hfamily
    dsimp only
    rw [hfamily]
    apply stays_call (Permits.revokeFamily _)
    intro records u _
    trivial
  unfold Facade.logout
  apply hrevoke.bind
  intro y w' _
  cases y with
  | none => exact stays_note (f := pure) trivial
  | some revoked => exact stays_note (stays_report _ _ _ _)

end Presented

end Session

namespace Service

/-! # Errands -/

/-- A refresh or a logout that somebody makes, with the sequences from which it draws. -/
structure Errand where
  presented : Secret
  request : Request
  repeatable : Repeatable presented request
  supply : Supply
  drawn : Drawn

namespace Errand

def run (f : Session.Facade) (e : Errand) (w : World) : Except Halt e.request.Reply × World :=
  (anew w e.supply e.drawn).run (e.request.flow f)

/-- The identifier under which an errand may store a record.  A refresh draws it after that of the
access token. -/
def Stores (e : Errand) (id : RecordId) : Prop :=
  e.request = .refresh e.presented ∧ id = ⟨e.supply.ids (e.drawn.ids + 1)⟩

def Hashes (e : Errand) (hash : String) : Prop :=
  e.request = .refresh e.presented ∧ hash = (e.supply.secrets e.drawn.secrets).hash

/-- Nothing has been stored under the identifier and the hash of an errand. -/
structure Unused (e : Errand) (t : Table) : Prop where
  ids : ∀ id, e.Stores id → t.records.get? id = none
  hashes : ∀ hash, e.Hashes hash → t.byHash.get? hash = none

/-- Two errands that do not store under the same identifier or the same hash. -/
structure Apart (e₁ e₂ : Errand) : Prop where
  ids : ∀ id, e₁.Stores id → ¬ e₂.Stores id
  hashes : ∀ hash, e₁.Hashes hash → ¬ e₂.Hashes hash

theorem Apart.symm {e₁ e₂ : Errand} (h : e₁.Apart e₂) : e₂.Apart e₁ where
  ids := fun id h₂ h₁ => h.ids id h₁ h₂
  hashes := fun hash h₂ h₁ => h.hashes hash h₁ h₂

/-- What an errand may touch if its secret is that of a record. -/
def scope (e : Errand) (r : Record) : Scope :=
  ⟨r.family, e.presented.hash, e.Stores, e.Hashes⟩

variable (f : Session.Facade) {w : World} {e : Errand} {r : Record}

theorem stays (ht : w.store.tokens.Coherent)
    (hfound : w.store.tokens.findByHash e.presented.hash = some r)
    (hunused : e.Unused w.store.tokens) :
    (e.scope r).Stays (e.request.flow f) (anew w e.supply e.drawn) := by
  rcases e with ⟨p, q, hq, supply, drawn⟩
  rcases hq with rfl | rfl
  · refine Session.stays_refresh (w := anew w supply drawn) ht hfound rfl rfl f ?_
    exact ⟨⟨rfl, rfl⟩, ⟨rfl, rfl⟩, hunused.ids _ ⟨rfl, rfl⟩⟩
  · exact Session.stays_logout (w := anew w supply drawn) ht hfound rfl rfl

/-- An errand leaves everything beyond its scope as it was. -/
theorem within_run (ht : w.store.tokens.Coherent)
    (hfound : w.store.tokens.findByHash e.presented.hash = some r)
    (hunused : e.Unused w.store.tokens) :
    (e.scope r).Within w.store (e.run f w).2.store := by
  have hagree : (e.scope r).Agree w.store.tokens w.store.tokens :=
    ⟨rfl, fun _ _ _ => Iff.rfl, fun _ _ => rfl, rfl, fun _ _ => rfl⟩
  have hbeside : (e.scope r).Beside (anew w e.supply e.drawn) (anew w e.supply e.drawn) :=
    ⟨rfl, rfl, ht.owns r.family, rfl, rfl, hagree⟩
  exact ((e.stays f ht hfound hunused).run hbeside).right.left

/-- An errand comes out alike before and after another one for another family. -/
theorem run_after {e' : Errand} {r' : Record} (ht : w.store.tokens.Coherent)
    (hfound : w.store.tokens.findByHash e.presented.hash = some r)
    (hfound' : w.store.tokens.findByHash e'.presented.hash = some r')
    (hunused : e.Unused w.store.tokens) (hunused' : e'.Unused w.store.tokens)
    (happart : e.Apart e') (hfamily : r.family ≠ r'.family) :
    (e.run f w).1 = (e.run f (e'.run f w).2).1 ∧
      (e.scope r).Lockstep (anew w e.supply e.drawn)
        (anew (e'.run f w).2 e.supply e.drawn) (e.run f w).2 (e.run f (e'.run f w).2).2 := by
  have hwithin := e'.within_run f ht hfound' hunused'
  -- The presented hash is in use, and the other errand stores under one that is not.
  have hpresented : ¬ e'.Hashes e.presented.hash := by
    intro hhash
    have hnone := hunused'.hashes _ hhash
    rcases Table.findByHash_eq_some.mp hfound with ⟨id, hid, _⟩
    rw [hnone] at hid
    cases hid
  have hagree : (e.scope r).Agree w.store.tokens (e'.run f w).2.store.tokens := by
    apply hwithin.tokens.agree (σ := e.scope r) hfamily _ hpresented happart.hashes
    intro id hid
    exact ⟨happart.ids id hid, hunused.ids id hid⟩
  apply (e.stays f ht hfound hunused).run
  exact ⟨rfl, rfl, ht.owns r.family, hwithin.subjects.symm, hwithin.shares.symm, hagree⟩

end Errand

/-- Two errands for secrets of different families come out the same in either order: each gets the
same answer, and they leave the same accounts, shares and tables, and the same events in some
order.  It does not matter whose the families are, nor what becomes of each errand, so long as
new records are stored under identifiers and hashes that are not in use. -/
theorem errands_commute {f : Session.Facade} {s : Service} (hs : Reachable f s)
    (hd : s.DistinctIds) {w : World} (hw : w.store = s.world.store) {e₁ e₂ : Errand}
    {r₁ r₂ : Record} (hfound₁ : w.store.tokens.findByHash e₁.presented.hash = some r₁)
    (hfound₂ : w.store.tokens.findByHash e₂.presented.hash = some r₂)
    (hfamily : r₁.family ≠ r₂.family) (hunused₁ : e₁.Unused w.store.tokens)
    (hunused₂ : e₂.Unused w.store.tokens) (happart : e₁.Apart e₂) :
    (e₁.run f (e₂.run f w).2).1 = (e₁.run f w).1 ∧
    (e₂.run f (e₁.run f w).2).1 = (e₂.run f w).1 ∧
    (e₂.run f (e₁.run f w).2).2.store.subjects = (e₁.run f (e₂.run f w).2).2.store.subjects ∧
    (e₂.run f (e₁.run f w).2).2.store.shares = (e₁.run f (e₂.run f w).2).2.store.shares ∧
    (e₂.run f (e₁.run f w).2).2.store.tokens.Same (e₁.run f (e₂.run f w).2).2.store.tokens ∧
    (e₂.run f (e₁.run f w).2).2.trail.Perm (e₁.run f (e₂.run f w).2).2.trail := by
  have ht : w.store.tokens.Coherent := by
    rw [hw]
    exact (hs.invariant hd).coherent
  rcases e₁.run_after f ht hfound₁ hfound₂ hunused₁ hunused₂ happart hfamily with
    ⟨hanswer₁, hstep₁⟩
  rcases e₂.run_after f ht hfound₂ hfound₁ hunused₂ hunused₁ happart.symm hfamily.symm with
    ⟨hanswer₂, hstep₂⟩
  refine ⟨hanswer₁.symm, hanswer₂.symm, ?_, ?_, ?_, ?_⟩
  · calc (e₂.run f (e₁.run f w).2).2.store.subjects
      _ = (e₁.run f w).2.store.subjects := hstep₂.right.subjects
      _ = (e₁.run f (e₂.run f w).2).2.store.subjects := hstep₁.beside.store.subjects
  · calc (e₂.run f (e₁.run f w).2).2.store.shares
      _ = (e₁.run f w).2.store.shares := hstep₂.right.shares
      _ = (e₁.run f (e₂.run f w).2).2.store.shares := hstep₁.beside.store.shares
  · exact Scope.same_of_confined (σ := e₁.scope r₁) (τ := e₂.scope r₂) hfamily happart.hashes
      hstep₁.left.tokens hstep₂.right.tokens hstep₂.left.tokens hstep₁.right.tokens
      hstep₁.beside.store.tokens hstep₂.beside.store.tokens
  · rcases hstep₁.trail with ⟨events₁, hfirst₁, hlater₁⟩
    rcases hstep₂.trail with ⟨events₂, hfirst₂, hlater₂⟩
    have hboth : (e₂.run f (e₁.run f w).2).2.trail = w.trail ++ (events₁ ++ events₂) := by
      rw [hlater₂, ← List.append_assoc]
      exact congrArg (· ++ events₂) hfirst₁
    have hboth' : (e₁.run f (e₂.run f w).2).2.trail = w.trail ++ (events₂ ++ events₁) := by
      rw [hlater₁, ← List.append_assoc]
      exact congrArg (· ++ events₁) hfirst₂
    rw [hboth, hboth']
    exact List.perm_append_comm.append_left w.trail

/-! # Two sessions of one subject -/

namespace Sample

def sessions : Service :=
  run facade
    { world := { world with drawn := ⟨2, 0, 0, 0⟩ }
      tasks := [⟨login, facade.openSession subject⟩, ⟨login, facade.openSession subject⟩]
      history := [⟨0, named "ada@example.org" (some subject)⟩,
        ⟨0, verified "old password" subject.passwordHash⟩,
        ⟨1, named "ada@example.org" (some subject)⟩,
        ⟨1, verified "old password" subject.passwordHash⟩] }
    (List.replicate 13 (.advance 0) ++ List.replicate 13 (.advance 1))

theorem reaches_sessions : Reaches facade (idle world) sessions := by
  have hfound : world.readClock.2.store.subjects.findByIdentifier "ada@example.org" =
      some subject := findByIdentifier_world
  have hlogin := turns_login (f := facade) hfound verify_passwordHash rfl
  refine reaches_verified.trans (Reaches.trans ⟨_, (run_start 2 _ login).trans ?_⟩ ⟨_, rfl⟩)
  simp only [login, Request.flow, hlogin]
  rfl

def errand (p : Secret) (n : Nat) : Errand :=
  ⟨p, .refresh p, Or.inl rfl, supply, ⟨n, n, n, n⟩⟩

theorem unused_errand {p : Secret} {n : Nat} {t : Table}
    (hid : t.records.get? ⟨supply.ids (n + 1)⟩ = none)
    (hhash : t.byHash.get? (supply.secrets n).hash = none) : (errand p n).Unused t := by
  constructor
  · rintro id ⟨_, rfl⟩
    exact hid
  · rintro hash ⟨_, rfl⟩
    exact hhash

end Sample

/-- Both sessions of a subject may be refreshed in either order. -/
theorem errands_commute_sessions :
    let w := Sample.sessions.world
    let e₁ := Sample.errand (Sample.supply.secrets 0) 100
    let e₂ := Sample.errand (Sample.supply.secrets 1) 200
    (e₂.run Sample.facade (e₁.run Sample.facade w).2).2.store.tokens.Same
        (e₁.run Sample.facade (e₂.run Sample.facade w).2).2.store.tokens ∧
      (e₂.run Sample.facade (e₁.run Sample.facade w).2).2.trail.Perm
        (e₁.run Sample.facade (e₂.run Sample.facade w).2).2.trail := by
  intro w e₁ e₂
  have hs : Reachable Sample.facade Sample.sessions :=
    ⟨Sample.world, Sample.fresh_world, Sample.reaches_sessions⟩
  have hobserved : w.drawn.ids ≤ Nat.pow 256 16 ∧
      (w.store.tokens.findByHash e₁.presented.hash).any (fun r =>
        (w.store.tokens.findByHash e₂.presented.hash).any (fun r' =>
          decide (r.family ≠ r'.family))) = true ∧
      w.store.tokens.records.get? ⟨Sample.supply.ids 101⟩ = none ∧
      w.store.tokens.records.get? ⟨Sample.supply.ids 201⟩ = none ∧
      w.store.tokens.byHash.get? (Sample.supply.secrets 100).hash = none ∧
      w.store.tokens.byHash.get? (Sample.supply.secrets 200).hash = none ∧
      Sample.supply.ids 101 ≠ Sample.supply.ids 201 ∧
      (Sample.supply.secrets 100).hash ≠ (Sample.supply.secrets 200).hash := by
    decide +kernel
  rcases hobserved with ⟨hdrawn, hfamilies, hid₁, hid₂, hhash₁, hhash₂, hids, hhashes⟩
  have hd : Sample.sessions.DistinctIds :=
    Sample.distinctIds_of_supply
      (congrArg Supply.ids (Reaches.supply_eq Sample.reaches_sessions)) hdrawn
  rcases (Option.any_eq_true _ _).mp hfamilies with ⟨r₁, hr₁, hr₂⟩
  rcases (Option.any_eq_true _ _).mp hr₂ with ⟨r₂, hr₂, hfamily⟩
  have happart : e₁.Apart e₂ := by
    constructor
    · rintro id ⟨_, rfl⟩ ⟨_, heq⟩
      exact hids (congrArg Id.uuid heq)
    · rintro hash ⟨_, rfl⟩ ⟨_, heq⟩
      exact hhashes heq
  rcases errands_commute hs hd rfl hr₁ hr₂ (of_decide_eq_true hfamily)
    (Sample.unused_errand hid₁ hhash₁) (Sample.unused_errand hid₂ hhash₂) happart with
    ⟨_, _, _, _, hsame, hevents⟩
  exact ⟨hsame, hevents⟩

end Service

end SessionAuth
