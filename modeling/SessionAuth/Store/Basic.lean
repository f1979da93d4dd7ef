import SessionAuth.Refresh.Table
import SessionAuth.Store.Directory
import SessionAuth.Store.Shares

/-!
# The store

All that the service remembers, and the calls by which the flows of a request read and change it.
Each call is one atomic step.
-/

namespace SessionAuth

open Time

structure Store where
  subjects : Directory
  tokens : Refresh.Table
  shares : Shares

namespace Store

def empty : Store :=
  ⟨.empty, .empty, .empty⟩

inductive Call where
  | findById (id : SubjectId)
  | findByIdentifier (identifier : String)
  | markPasswordChanged (id : SubjectId) (hash : String)
  | recordAuthentication (id : SubjectId) (instant : Instant)
  | insert (record : Refresh.Record)
  | findByHash (hash : String)
  | transition (id : RecordId) (expected state : Refresh.State) (successor : Option Refresh.Record)
  | revokeFamily (family : FamilyId) (reason : Refresh.Reason)
  | revokeSubjectFamilies (subject : SubjectId) (reason : Refresh.Reason)
  | activeRecords (subject : SubjectId)
  | findResource (id : ResourceId)
  | findActiveGrant (subject : SubjectId) (resource : ResourceId)
  | grantHistory (subject : SubjectId) (resource : ResourceId)
deriving DecidableEq

namespace Call

def name : Call → String
  | findById _ => "find_by_id"
  | findByIdentifier _ => "find_by_identifier"
  | markPasswordChanged _ _ => "mark_password_changed"
  | recordAuthentication _ _ => "record_authentication"
  | insert _ => "insert"
  | findByHash _ => "find_by_hash"
  | transition _ _ _ _ => "atomic_transition"
  | revokeFamily _ _ => "revoke_family"
  | revokeSubjectFamilies _ _ => "revoke_subject_families"
  | activeRecords _ => "active_records_for_subject"
  | findResource _ => "find_resource"
  | findActiveGrant _ _ => "find_active_grant"
  | grantHistory _ _ => "grant_history"

abbrev Reply : Call → Type
  | findById _ => Option Subject
  | findByIdentifier _ => Option Subject
  | markPasswordChanged _ _ => Unit
  | recordAuthentication _ _ => Unit
  | insert _ => Unit
  | findByHash _ => Option Refresh.Record
  | transition _ _ _ _ => Refresh.Transition
  | revokeFamily _ _ => Nat
  | revokeSubjectFamilies _ _ => List FamilyId
  | activeRecords _ => List Refresh.Record
  | findResource _ => Option Resource
  | findActiveGrant _ _ => Option Grant
  | grantHistory _ _ => History

end Call

/-- Answers a call at an instant.  A call that fails changes nothing. -/
def perform (s : Store) (now : Instant) : (c : Call) → Except StoreError (c.Reply × Store)
  | .findById id => .ok (s.subjects.findById id, s)
  | .findByIdentifier identifier => .ok (s.subjects.findByIdentifier identifier, s)
  | .markPasswordChanged id hash => do
      let subjects ← s.subjects.markPasswordChanged now id hash
      return ((), { s with subjects := subjects })
  | .recordAuthentication id instant =>
      .ok ((), { s with subjects := s.subjects.recordAuthentication id instant })
  | .insert record => do
      let tokens ← s.tokens.insert record
      return ((), { s with tokens := tokens })
  | .findByHash hash => .ok (s.tokens.findByHash hash, s)
  | .transition id expected state successor => do
      let (outcome, tokens) ← s.tokens.transition now id expected state successor
      return (outcome, { s with tokens := tokens })
  | .revokeFamily family reason =>
      let (n, tokens) := s.tokens.revokeFamily now family reason
      .ok (n, { s with tokens := tokens })
  | .revokeSubjectFamilies subject reason =>
      let (families, tokens) := s.tokens.revokeSubjectFamilies now subject reason
      .ok (families, { s with tokens := tokens })
  | .activeRecords subject => .ok (s.tokens.activeRecords subject, s)
  | .findResource id => .ok (s.shares.findResource id, s)
  | .findActiveGrant subject resource => .ok (s.shares.activeGrant subject resource, s)
  | .grantHistory subject resource => .ok (s.shares.history subject resource, s)

end Store

end SessionAuth
