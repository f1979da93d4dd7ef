import SessionAuth.Text.Lowercase
import SessionAuth.Time.Instant
import SessionAuth.Uuid

/-!
# Shares

Resources, and the levels of permission on them that subjects hold.
-/

namespace SessionAuth

open Time

inductive Level where
  | viewer
  | editor
  | owner
deriving DecidableEq, Repr

namespace Level

def rank : Level → Nat
  | viewer => 0
  | editor => 1
  | owner => 2

def satisfies (held required : Level) : Bool :=
  decide (required.rank ≤ held.rank)

def name : Level → String
  | viewer => "viewer"
  | editor => "editor"
  | owner => "owner"

def ofName? (s : String) : Option Level :=
  [viewer, editor, owner].find? (fun level => level.name == s)

def parse? (s : String) : Option Level :=
  ofName? (Text.lowercase s)

end Level

/-- A grant of a level on a resource.  A revoked grant stays in the history. -/
structure Grant where
  id : GrantId
  subject : SubjectId
  resource : ResourceId
  level : Level
  grantedBy : SubjectId
  createdAt : Instant
  revokedAt : Option Instant
  revokedBy : Option SubjectId
deriving DecidableEq

namespace Grant

def isActive (g : Grant) : Bool :=
  g.revokedAt.isNone

end Grant

structure Resource where
  id : ResourceId
  owner : SubjectId
  createdAt : Instant
  deletedAt : Option Instant
deriving DecidableEq

namespace Resource

def isDeleted (r : Resource) : Bool :=
  r.deletedAt.isSome

end Resource

end SessionAuth
