import SessionAuth.Flow.Basic

/-!
# Permissions

What a subject may do with a resource.  An administrator may do everything with a resource that
is there, and the trail tells such an access from one by grant.
-/

namespace SessionAuth
namespace Permission

inductive Decision where
  | granted (level : Level)
  | adminOverride
  | denied (held : Option Level)
deriving DecidableEq, Repr

namespace Decision

def isAllowed : Decision → Bool
  | denied _ => false
  | _ => true

end Decision

def liveResource (id : ResourceId) : Flow (Option Resource) := do
  return (← Flow.call (.findResource id)).filter (fun r => !r.isDeleted)

/-- The level of a subject on a resource: that of its grant in force.  The creator of a resource
on which it never had a grant is its owner all the same. -/
def levelOn (r : Resource) (subject : SubjectId) : Flow (Option Level) := do
  match ← Flow.call (.findActiveGrant subject r.id) with
  | some g => return some g.level
  | none =>
      if r.owner = subject then
        if (← Flow.call (.grantHistory subject r.id)).isEmpty then return some .owner
        else return none
      else return none

def effectiveLevel (subject : SubjectId) (resource : ResourceId) : Flow (Option Level) := do
  match ← liveResource resource with
  | none => return none
  | some r => levelOn r subject

def isAdministrator (subject : SubjectId) : Flow Bool := do
  return (← Flow.call (.findById subject)).any (fun s => s.isUsable && s.admin)

def eventOf : Decision → Audit.Kind × Audit.Outcome × Option Level
  | .granted level => (.authzGranted, .success, some level)
  | .adminOverride => (.authzAdminOverride, .success, none)
  | .denied held => (.authzDenied, .failure, held)

def reportDecision (subject : SubjectId) (resource : ResourceId) (required : Level)
    (decision : Decision) (reason : Option String) : Flow Unit := do
  if decision = .adminOverride then
    Flow.note (.administratorOverride subject resource required)
  let (kind, outcome, held) := eventOf decision
  Flow.report kind (some subject) outcome
    [("resource_id", .string resource.text), ("required", .string required.name),
     ("held", .optionalString (held.map Level.name)), ("reason", .optionalString reason)]

def decideHeld (subject : SubjectId) (required : Level) (held : Option Level) : Flow Decision := do
  match held.filter (fun level => level.satisfies required) with
  | some level => return .granted level
  | none =>
      if ← isAdministrator subject then return .adminOverride else return .denied held

def decide (subject : SubjectId) (resource : ResourceId) (required : Level) : Flow Decision := do
  match ← liveResource resource with
  | none =>
      reportDecision subject resource required (.denied none) (some "resource_not_found")
      return .denied none
  | some r =>
      let decision ← decideHeld subject required (← levelOn r subject)
      reportDecision subject resource required decision none
      return decision

def authorize (subject : SubjectId) (resource : ResourceId) (required : Level) : Flow Bool := do
  return (← decide subject resource required).isAllowed

def require (subject : SubjectId) (resource : ResourceId) (required : Level) :
    Flow (Except Failure Decision) := do
  let decision ← decide subject resource required
  return if decision.isAllowed then .ok decision else .error .permissionDenied

def ensureCanManageGrants (subject : SubjectId) (resource : ResourceId) :
    Flow (Except Failure Decision) :=
  require subject resource .owner

end Permission
end SessionAuth
