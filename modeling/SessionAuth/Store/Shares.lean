import SessionAuth.Grant
import SessionAuth.Registry

/-!
# The book of shares

Resources, and for each pair of a subject and a resource the history of its grants.  At most the
last grant of a history is in force.
-/

namespace SessionAuth

open Time

abbrev History := List Grant

namespace History

def active? (h : History) : Option Grant :=
  h.find? Grant.isActive

def modifyActive (f : Grant → Grant) : History → History
  | [] => []
  | g :: gs => if g.isActive then f g :: gs else g :: modifyActive f gs

end History

structure Shares where
  resources : Registry ResourceId Resource
  grants : Registry (SubjectId × ResourceId) History

namespace Shares

def empty : Shares :=
  ⟨.empty, .empty⟩

def findResource (b : Shares) (id : ResourceId) : Option Resource :=
  b.resources.get? id

def history (b : Shares) (subject : SubjectId) (resource : ResourceId) : History :=
  (b.grants.get? (subject, resource)).getD []

def activeGrant (b : Shares) (subject : SubjectId) (resource : ResourceId) : Option Grant :=
  (b.history subject resource).active?

/-- Adds a resource, of which its creator gets the ownership. -/
def create (b : Shares) (now : Instant) (id : ResourceId) (grant : GrantId) (owner : SubjectId) :
    Resource × Shares :=
  let resource : Resource := ⟨id, owner, now, none⟩
  let owning : Grant := ⟨grant, owner, id, .owner, owner, now, none, none⟩
  (resource,
    { resources := b.resources.insert id resource
      grants := b.grants.insert (owner, id) [owning] })

/-- Grants a level.  A grant in force takes the new level, and otherwise a new one is opened. -/
def put (b : Shares) (now : Instant) (id : GrantId) (subject : SubjectId) (resource : ResourceId)
    (level : Level) (grantedBy : SubjectId) : Grant × Shares :=
  let h := b.history subject resource
  let change (g : Grant) : Grant := { g with level := level, grantedBy := grantedBy }
  match h.active? with
  | some g =>
      (change g, { b with grants := b.grants.insert (subject, resource) (h.modifyActive change) })
  | none =>
      let g : Grant := ⟨id, subject, resource, level, grantedBy, now, none, none⟩
      (g, { b with grants := b.grants.insert (subject, resource) (h ++ [g]) })

/-- Withdraws the grant in force, and tells whether there was one. -/
def revoke (b : Shares) (now : Instant) (subject : SubjectId) (resource : ResourceId)
    (revokedBy : SubjectId) : Bool × Shares :=
  let close (g : Grant) : Grant := { g with revokedAt := some now, revokedBy := some revokedBy }
  ((b.activeGrant subject resource).isSome,
    { b with grants := b.grants.modify (subject, resource) (fun h => h.modifyActive close) })

/-- Deletes a resource, and tells whether it is known.  The first deletion counts. -/
def delete (b : Shares) (now : Instant) (id : ResourceId) : Bool × Shares :=
  (b.resources.contains id,
    { b with
      resources := b.resources.modify id
        (fun r => { r with deletedAt := some (r.deletedAt.getD now) }) })

end Shares

end SessionAuth
