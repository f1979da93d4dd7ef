import SessionAuth.Text.Lowercase
import SessionAuth.Time.Instant
import SessionAuth.Uuid

/-!
# Subjects

The accounts that log in.  A subject is known by its email and by its username, in any spelling
that differs in case alone.
-/

namespace SessionAuth

open Time

/-- The form of an identifier in which spellings that differ in case agree. -/
def foldIdentifier (identifier : String) : String :=
  Text.lowercase identifier

structure Subject where
  id : SubjectId
  email : String
  username : String
  passwordHash : String
  active : Bool
  admin : Bool
  deletedAt : Option Instant
  lastAuthenticatedAt : Option Instant
  passwordChangedAt : Option Instant
  createdAt : Instant
deriving DecidableEq

namespace Subject

/-- Tells whether a subject has been deleted.  Its row stays in the store. -/
def isDeleted (s : Subject) : Bool :=
  s.deletedAt.isSome

def isUsable (s : Subject) : Bool :=
  s.active && !s.isDeleted

def matchesEmail (s : Subject) (identifier : String) : Bool :=
  foldIdentifier s.email == foldIdentifier identifier

def matchesIdentifier (s : Subject) (identifier : String) : Bool :=
  s.matchesEmail identifier || foldIdentifier s.username == foldIdentifier identifier

end Subject

/-- The subject that an identifier names among some subjects: the first whose email it is, or
else the first whose username it is.  Deleted subjects have no names. -/
def Subject.findNamed? (identifier : String) (subjects : List Subject) : Option Subject :=
  let present := subjects.filter (fun s => !s.isDeleted)
  (present.find? (fun s => s.matchesEmail identifier)).or
    (present.find? (fun s => s.matchesIdentifier identifier))

end SessionAuth
