import SessionAuth.Fault
import SessionAuth.Refresh.Record
import SessionAuth.Registry

/-!
# The table of refresh records

The records of all families, with an index from hashes to records.  Every operation is one atomic
step: it either changes the table as a whole or leaves it as it was.
-/

namespace SessionAuth
namespace Refresh

open Time

/-- A family: whose it is, its records in the order of their issue, and the instant at which it
was withdrawn. -/
structure Family where
  subject : SubjectId
  records : List RecordId
  revokedAt : Option Instant
deriving DecidableEq

namespace Family

def isRevoked (f : Family) : Bool :=
  f.revokedAt.isSome

end Family

structure Table where
  records : Registry RecordId Record
  byHash : Registry String RecordId
  families : Registry FamilyId Family

inductive Transition where
  | applied
  | stateMismatch (current : State)
  | familyRevoked
  | notFound
deriving DecidableEq, Repr

namespace Table

def empty : Table :=
  ⟨.empty, .empty, .empty⟩

/-! # Reading -/

def findByHash (t : Table) (hash : String) : Option Record := do
  t.records.get? (← t.byHash.get? hash)

def familyRecords (t : Table) (family : FamilyId) : List Record :=
  match t.families.get? family with
  | none => []
  | some f =>
      (f.records.filterMap t.records.get?).mergeSort
        (fun r s => decide (r.generation ≤ s.generation))

def activeRecords (t : Table) (subject : SubjectId) : List Record :=
  (t.records.values.filter (fun r => decide (r.subject = subject) && r.isActive)).mergeSort
    (fun r s => decide (r.createdAt ≤ s.createdAt))

/-- Tells whether a family takes no further record: it is unknown or withdrawn. -/
def isClosed (t : Table) (family : FamilyId) : Bool :=
  match t.families.get? family with
  | none => true
  | some f => f.isRevoked

/-! # Adding -/

def push (t : Table) (r : Record) : Except StoreError Table :=
  if t.byHash.contains r.tokenHash then .error .hashAlreadyStored
  else
    .ok { t with
      byHash := t.byHash.insert r.tokenHash r.id
      records := t.records.insert r.id r }

def insert (t : Table) (r : Record) : Except StoreError Table :=
  if t.families.contains r.family then .error (.familyAlreadyExists r.family)
  else do
    let t ← t.push r
    return { t with families := t.families.insert r.family ⟨r.subject, [r.id], none⟩ }

def pushSuccessor (t : Table) (family : FamilyId) (r : Record) : Except StoreError Table :=
  if r.family ≠ family then .error (.successorInOtherFamily r.family family)
  else do
    let t ← t.push r
    return { t with
      families := t.families.modify family (fun f => { f with records := f.records ++ [r.id] }) }

/-! # Changing -/

/-- Moves a record from an expected state to another one and stores its successor.  Nothing
happens if the record is in another state or its family is closed. -/
def transition (t : Table) (now : Instant) (id : RecordId) (expected state : State)
    (successor : Option Record) : Except StoreError (Transition × Table) :=
  match t.records.get? id with
  | none => .ok (.notFound, t)
  | some r =>
      if t.isClosed r.family then .ok (.familyRevoked, t)
      else if r.state ≠ expected then .ok (.stateMismatch r.state, t)
      else do
        let t ← match successor with
          | none => pure t
          | some s => t.pushSuccessor r.family s
        return (.applied, { t with
          records := t.records.modify id (fun r => r.moveTo now state (successor.map Record.id)) })

def revokeRecords (now : Instant) (reason : Reason) :
    List RecordId → Registry RecordId Record → Nat × Registry RecordId Record
  | [], records => (0, records)
  | id :: ids, records =>
      let changes := (records.get? id).any (fun r => r.state != .revoked)
      let (n, records) := revokeRecords now reason ids
        (records.modify id (fun r => r.revoke now reason))
      (if changes then n + 1 else n, records)

def revokeFamily (t : Table) (now : Instant) (family : FamilyId) (reason : Reason) : Nat × Table :=
  match t.families.get? family with
  | none => (0, t)
  | some f =>
      let (n, records) := revokeRecords now reason f.records t.records
      (n, { t with
        families := t.families.modify family
          (fun f => { f with revokedAt := some (f.revokedAt.getD now) })
        records := records })

def liveFamilies (t : Table) (subject : SubjectId) : List FamilyId :=
  (t.families.entries.filter (fun e => decide (e.2.subject = subject) && !e.2.isRevoked)).map
    Prod.fst

/-- Withdraws all families of a subject, and gives those that were not withdrawn before.  One
reading of the clock stands for the whole sweep, where a store may read it anew for each family. -/
def revokeSubjectFamilies (t : Table) (now : Instant) (subject : SubjectId) (reason : Reason) :
    List FamilyId × Table :=
  let live := t.liveFamilies subject
  (live, live.foldl (fun t family => (t.revokeFamily now family reason).2) t)

end Table

end Refresh
end SessionAuth
