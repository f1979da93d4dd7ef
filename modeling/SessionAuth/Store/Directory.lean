import SessionAuth.Fault
import SessionAuth.Registry
import SessionAuth.Subject

/-!
# The directory of subjects

All accounts, the deleted ones among them.
-/

namespace SessionAuth

open Time

abbrev Directory := Registry SubjectId Subject

namespace Directory

/-- The subject with an identifier.  A deleted subject is not found. -/
def findById (d : Directory) (id : SubjectId) : Option Subject :=
  (d.get? id).filter (fun s => !s.isDeleted)

def findByIdentifier (d : Directory) (identifier : String) : Option Subject :=
  Subject.findNamed? identifier d.values

def put (d : Directory) (s : Subject) : Directory :=
  d.insert s.id s

/-- Gives a subject a new password.  The subject must be known. -/
def markPasswordChanged (d : Directory) (now : Instant) (id : SubjectId) (hash : String) :
    Except StoreError Directory :=
  if d.contains id then
    .ok (d.modify id (fun s => { s with passwordHash := hash, passwordChangedAt := some now }))
  else .error (.subjectNotFound id)

def recordAuthentication (d : Directory) (id : SubjectId) (instant : Instant) : Directory :=
  d.modify id (fun s => { s with lastAuthenticatedAt := some instant })

def setActive (d : Directory) (id : SubjectId) (active : Bool) : Bool × Directory :=
  (d.contains id, d.modify id (fun s => { s with active := active }))

/-- Deletes a subject, and tells whether it is known.  The first deletion counts. -/
def softDelete (d : Directory) (now : Instant) (id : SubjectId) : Bool × Directory :=
  (d.contains id, d.modify id (fun s => { s with deletedAt := some (s.deletedAt.getD now) }))

end Directory

end SessionAuth
