import SessionAuth.Proofs.Refresh.Operations

/-!
# Writing in place

The operations that store a record write to one part of a table after the other, and may be
refused on the way.  Here they are carried out write by write, so that a table that is left half
changed would be seen.  It turns out that none is.
-/

namespace SessionAuth
namespace Refresh

open Time

/-- A sequence of writes to a table, which may break off.  What has been written by then stays. -/
abbrev Writing (α : Type) : Type :=
  ExceptT StoreError (StateM Table) α

namespace Writing

variable {α β : Type}

/-- What a sequence of writes answers, and the table that it leaves. -/
def exec (x : Writing α) (t : Table) : Except StoreError α × Table :=
  x.run.run t

/-- The answer of an operation as a whole, and the table that it leaves.  If the operation fails,
the table is the one from before. -/
def settle (t : Table) : Except StoreError (α × Table) → Except StoreError α × Table
  | .ok (a, u) => (.ok a, u)
  | .error e => (.error e, t)

theorem exec_bind {x : Writing α} {y : Except StoreError (α × Table)} {t : Table}
    (f : α → Writing β) :
    x.exec t = settle t y →
      (x >>= f).exec t =
        match y with
        | .ok (a, u) => (f a).exec u
        | .error e => (.error e, t) := by
  intro hexec
  have hrun : x.run.run t = settle t y := hexec
  change (ExceptT.bindCont f (x.run.run t).1).run (x.run.run t).2 = _
  rw [hrun]
  cases y with
  | ok a => rfl
  | error e => rfl

/-! # The operations, write by write -/

def push (r : Record) : Writing Unit := do
  if (← get).byHash.contains r.tokenHash then throw .hashAlreadyStored
  else
    modify (fun t => { t with byHash := t.byHash.insert r.tokenHash r.id })
    modify (fun t => { t with records := t.records.insert r.id r })

def insert (r : Record) : Writing Unit := do
  if (← get).families.contains r.family then throw (.familyAlreadyExists r.family)
  else
    push r
    modify (fun t => { t with families := t.families.insert r.family ⟨r.subject, [r.id], none⟩ })

def pushSuccessor (family : FamilyId) (r : Record) : Writing Unit := do
  if r.family ≠ family then throw (.successorInOtherFamily r.family family)
  else
    push r
    modify (fun t => { t with families := t.families.modify family (fun f => f.extend r.id) })

def transition (now : Instant) (id : RecordId) (expected state : State)
    (successor : Option Record) : Writing Transition := do
  match (← get).records.get? id with
  | none => return .notFound
  | some r =>
      if (← get).isClosed r.family then return .familyRevoked
      else if r.state ≠ expected then return .stateMismatch r.state
      else
        match successor with
        | none => pure ()
        | some s => pushSuccessor r.family s
        modify (fun t => { t with
          records := t.records.modify id (fun r =>
            r.moveTo now state (successor.map Record.id)) })
        return .applied

/-! # Each of them as a whole -/

variable (t : Table)

theorem exec_push (r : Record) :
    (push r).exec t = settle t ((t.push r).map (fun u => ((), u))) := by
  change (if t.byHash.contains r.tokenHash then _ else _ : Writing Unit).exec t = _
  unfold Table.push
  split
  · rfl
  · rfl

theorem exec_insert (r : Record) :
    (insert r).exec t = settle t ((t.insert r).map (fun u => ((), u))) := by
  change (if t.families.contains r.family then _ else _ : Writing Unit).exec t = _
  unfold Table.insert
  split
  case isTrue => rfl
  case isFalse =>
      refine (exec_bind _ (exec_push t r)).trans ?_
      cases t.push r with
      | ok u => rfl
      | error e => rfl

theorem exec_pushSuccessor (family : FamilyId) (r : Record) :
    (pushSuccessor family r).exec t =
      settle t ((t.pushSuccessor family r).map (fun u => ((), u))) := by
  change (if r.family ≠ family then _ else _ : Writing Unit).exec t = _
  unfold Table.pushSuccessor
  split
  case isTrue => rfl
  case isFalse =>
      refine (exec_bind _ (exec_push t r)).trans ?_
      cases t.push r with
      | ok u => rfl
      | error e => rfl

theorem exec_transition (now : Instant) (id : RecordId) (expected state : State)
    (successor : Option Record) :
    (transition now id expected state successor).exec t =
      settle t (t.transition now id expected state successor) := by
  unfold Table.transition
  change (match t.records.get? id with | none => _ | some r => _ : Writing Transition).exec t = _
  cases t.records.get? id with
  | none => rfl
  | some r =>
      change (if t.isClosed r.family then _ else _ : Writing Transition).exec t = _
      dsimp only
      split
      case isTrue => rfl
      case isFalse =>
          split
          case isTrue => rfl
          case isFalse =>
              cases successor with
              | none => rfl
              | some s =>
                  refine (exec_bind _ (exec_pushSuccessor t r.family s)).trans ?_
                  dsimp only
                  cases t.pushSuccessor r.family s with
                  | ok u => rfl
                  | error e => rfl

end Writing

/-! # All or nothing -/

/-- What a transition does to a table in which its successor has no record yet.  The record is in
its new state, since this instant, and names its successor.  The successor is stored, listed at the
end of its family and known to the index.  All else is as it was. -/
structure Table.Movement (t u : Table) (now : Instant) (id : RecordId) (r : Record)
    (state : State) (successor : Option Record) : Prop where
  moved : u.records.get? id = some
    { r with
      state := state
      consumedAt := if state = .consumed then some now else r.consumedAt
      revokedAt := if state = .revoked then some now else r.revokedAt
      replacedBy := (successor.map Record.id).or r.replacedBy }
  stored : ∀ s, successor = some s → u.records.get? s.id = some s
  others : ∀ k, k ≠ id → (∀ s, successor = some s → k ≠ s.id) →
    u.records.get? k = t.records.get? k
  families : ∀ k, u.families.get? k = (t.families.get? k).map (fun g =>
    if k = r.family then { g with records := g.records ++ (successor.map Record.id).toList } else g)
  index : ∀ hash, u.byHash.get? hash =
    match successor with
    | none => t.byHash.get? hash
    | some s => if hash = s.tokenHash then some s.id else t.byHash.get? hash

theorem Table.movement {t : Table} {id : RecordId} {r : Record} {successor : Option Record}
    (hrecord : t.records.get? id = some r)
    (hfamily : ∀ s, successor = some s → s.family = r.family)
    (hfresh : ∀ s, successor = some s → t.records.get? s.id = none) (now : Instant)
    (state : State) :
    Movement t (t.moved now id state successor) now id r state successor := by
  have hne : ∀ s, successor = some s → s.id ≠ id := by
    intro s hs heq
    have hnone := hfresh s hs
    rw [heq, hrecord] at hnone
    cases hnone
  constructor
  case moved =>
      rw [get?_records_moved, hrecord]
      cases successor with
      | none => simp [Record.moveTo]
      | some s => simp [Option.filter_some, hne s rfl, Record.moveTo]
  case stored =>
      intro s hs
      rw [get?_records_moved, hs]
      simp [Option.filter_some, hne s hs]
  case others =>
      intro k hk hother
      rw [get?_records_moved]
      cases successor with
      | none => simp [hk]
      | some s => simp [Option.filter_some, Ne.symm (hother s rfl), hk]
  case families =>
      intro k
      rw [get?_families_moved]
      cases successor with
      | none => simp
      | some s =>
          rw [Option.filter_some, hfamily s rfl]
          by_cases hk : k = r.family
          · simp [hk]
          · simp [hk, Ne.symm hk]
  case index =>
      intro hash
      rw [get?_byHash_moved]
      cases successor with
      | none => rfl
      | some s =>
          by_cases hhash : hash = s.tokenHash
          · simp [Option.filter_some, hhash]
          · simp [Option.filter_some, hhash, Ne.symm hhash]

open Writing

/-- Written out write by write, the operations do what they do as a whole.  An insertion that
fails, and a transition that fails or does not apply, leave the table as it was.  A transition that
finds another state than the expected one tells which.  A transition applies to a record in the
expected state, whose family is in force, and to a successor of that family with a new hash.  If
the successor has a new identifier as well, nothing changes beyond what the transition is for. -/
theorem all_or_nothing (t : Table) :
    (∀ r : Record,
      (insert r).exec t = settle t ((t.insert r).map (fun u => ((), u))) ∧
      ∀ e, ((insert r).exec t).1 = .error e → ((insert r).exec t).2 = t) ∧
    ∀ (now : Instant) (id : RecordId) (expected state : State) (successor : Option Record),
      let x := (transition now id expected state successor).exec t
      x = settle t (t.transition now id expected state successor) ∧
      (x.1 ≠ .ok .applied → x.2 = t) ∧
      (∀ current, x.1 = .ok (.stateMismatch current) → current ≠ expected ∧
        ∃ r, t.records.get? id = some r ∧ r.state = current) ∧
      (x.1 = .ok .applied → ∃ r g, t.records.get? id = some r ∧ r.state = expected ∧
        t.families.get? r.family = some g ∧ g.isRevoked = false ∧
        (∀ s, successor = some s → s.family = r.family ∧ t.byHash.get? s.tokenHash = none) ∧
        ((∀ s, successor = some s → t.records.get? s.id = none) →
          Table.Movement t x.2 now id r state successor)) := by
  constructor
  · intro r
    rw [exec_insert]
    refine ⟨rfl, ?_⟩
    intro e he
    cases h : t.insert r with
    | ok u =>
        rw [h] at he
        cases he
    | error e => rfl
  · intro now id expected state successor
    dsimp only
    rw [exec_transition]
    refine ⟨rfl, ?_⟩
    cases h : t.transition now id expected state successor with
    | error e =>
        refine ⟨fun _ => rfl, ?_, ?_⟩
        · intro current hcurrent
          cases hcurrent
        · intro happlied
          cases happlied
    | ok x =>
        rcases x with ⟨o, u⟩
        dsimp only [settle]
        cases Table.transition_moves h with
        | notFound hnone => simp
        | familyRevoked hrecord hclosed => simp
        | stateMismatch hrecord hopen hstate =>
            refine ⟨fun _ => rfl, ?_, ?_⟩
            · intro current hcurrent
              cases hcurrent
              exact ⟨hstate, _, hrecord, rfl⟩
            · intro happlied
              cases happlied
        | applied hrecord hopen hstate hsuccessor =>
            refine ⟨fun hne => absurd rfl hne, ?_, ?_⟩
            · intro current hcurrent
              cases hcurrent
            · intro _
              rcases Table.isClosed_eq_false.mp hopen with ⟨g, hg, hlive⟩
              refine ⟨_, g, hrecord, hstate, hg, hlive, hsuccessor, ?_⟩
              intro hfresh
              exact Table.movement hrecord (fun s hs => (hsuccessor s hs).left) hfresh now state

namespace Sample

def issued (id family : Nat) (hash : String) : Record where
  id := ⟨.ofNat id⟩
  subject := ⟨.ofNat 0⟩
  family := ⟨.ofNat family⟩
  generation := 0
  tokenHash := hash
  state := .active
  replacedBy := none
  reason := none
  expiresAt := .latest
  createdAt := .epoch
  consumedAt := none
  revokedAt := none

def lone : Table :=
  Table.empty.withFamily (issued 0 0 "a")

end Sample

/-- An active record is moved, and its new successor is stored. -/
theorem all_or_nothing_lone :
    ∃ u, (transition .epoch ⟨.ofNat 0⟩ .active .consumed (some (Sample.issued 1 0 "b"))).exec
        Sample.lone = (.ok .applied, u) ∧
      Table.Movement Sample.lone u .epoch ⟨.ofNat 0⟩ (Sample.issued 0 0 "a") .consumed
        (some (Sample.issued 1 0 "b")) := by
  have hall := all_or_nothing Sample.lone
  rcases hall.right .epoch ⟨.ofNat 0⟩ .active .consumed (some (Sample.issued 1 0 "b")) with
    ⟨_, _, _, hmoves⟩
  have happlied : ((transition .epoch ⟨.ofNat 0⟩ .active .consumed
      (some (Sample.issued 1 0 "b"))).exec Sample.lone).1 = .ok .applied := rfl
  have hrecord : Sample.lone.records.get? ⟨.ofNat 0⟩ = some (Sample.issued 0 0 "a") := by decide
  rcases hmoves happlied with ⟨r, g, hr, _, _, _, _, hmovement⟩
  rw [hrecord] at hr
  cases hr
  refine ⟨_, Prod.ext happlied rfl, hmovement ?_⟩
  intro s hs
  cases hs
  decide

end Refresh
end SessionAuth
