import SessionAuth.Proofs.Refresh.Operations
import SessionAuth.Proofs.Service.Scripts

/-!
# The calls of the store

What an answered call has read and what it has changed.  Accounts keep the identifiers under which
they are stored.
-/

namespace SessionAuth

open Time

namespace Directory

def Keyed (d : Directory) : Prop :=
  ∀ id s, d.get? id = some s → s.id = id

variable {d : Directory}

theorem Keyed.modify (hd : d.Keyed) (id : SubjectId) {g : Subject → Subject}
    (hg : ∀ s, (g s).id = s.id) : Keyed (Registry.modify d id g) := by
  intro k s hs
  rw [Registry.get?_modify] at hs
  split at hs
  · rcases Option.map_eq_some_iff.mp hs with ⟨x, hx, rfl⟩
    rw [hg]
    exact hd k x hx
  · exact hd k s hs

theorem Keyed.put (hd : d.Keyed) (x : Subject) : Keyed (d.put x) := by
  intro k s hs
  unfold Directory.put at hs
  rw [Registry.get?_insert] at hs
  split at hs
  case isTrue heq =>
      cases hs
      exact heq.symm
  case isFalse => exact hd k s hs

theorem Keyed.findById (hd : d.Keyed) {id : SubjectId} {s : Subject}
    (h : d.findById id = some s) : s.id = id := by
  rcases Option.filter_eq_some_iff.mp h with ⟨hs, _⟩
  exact hd id s hs

/-- Whoever is named by an identifier is in the directory, and not deleted. -/
theorem Keyed.findByIdentifier (hd : d.Keyed) {identifier : String} {s : Subject}
    (h : d.findByIdentifier identifier = some s) : d.get? s.id = some s ∧ s.isDeleted = false := by
  have hmem : s ∈ (Registry.values d).filter (fun s => !s.isDeleted) := by
    unfold Directory.findByIdentifier Subject.findNamed? at h
    rcases Option.or_eq_some_iff.mp h with hemail | ⟨_, hname⟩
    · exact List.mem_of_find?_eq_some hemail
    · exact List.mem_of_find?_eq_some hname
  rcases List.mem_filter.mp hmem with ⟨hvalue, hpresent⟩
  rcases List.mem_map.mp hvalue with ⟨⟨k, x⟩, hentry, rfl⟩
  have hget := Registry.mem_entries.mp hentry
  have hk := hd k x hget
  dsimp only
  rw [hk]
  exact ⟨hget, by simpa using hpresent⟩

theorem findByIdentifier_eq_none {identifier : String} :
    d.findByIdentifier identifier = none ↔
      ∀ id s, d.get? id = some s → s.isDeleted = false →
        s.matchesIdentifier identifier = false := by
  unfold Directory.findByIdentifier Subject.findNamed?
  simp only [Option.or_eq_none_iff, List.find?_eq_none, Bool.not_eq_true, List.mem_filter,
    Bool.not_eq_true', Registry.values, List.mem_map, Prod.exists, exists_eq_right]
  constructor
  · intro h id s hs hpresent
    exact h.right s ⟨⟨id, Registry.mem_entries.mpr hs⟩, hpresent⟩
  · intro h
    have hnone : ∀ s, (∃ id, (id, s) ∈ d.entries) ∧ s.isDeleted = false →
        s.matchesIdentifier identifier = false := by
      rintro s ⟨⟨id, hentry⟩, hpresent⟩
      exact h id s (Registry.mem_entries.mp hentry) hpresent
    refine ⟨?_, hnone⟩
    intro s hs
    have hmatches := hnone s hs
    unfold Subject.matchesIdentifier at hmatches
    exact (Bool.or_eq_false_iff.mp hmatches).left

end Directory

namespace Store

variable {s u : Store} {now : Instant}

theorem perform_of_reads {c : Call} {a : c.Reply} (hreads : Service.reads c = true)
    (h : s.perform now c = .ok (a, u)) : u = s := by
  cases c with
  | findById id => cases h; rfl
  | findByIdentifier identifier => cases h; rfl
  | findByHash hash => cases h; rfl
  | activeRecords subject => cases h; rfl
  | findResource id => cases h; rfl
  | findActiveGrant subject resource => cases h; rfl
  | grantHistory subject resource => cases h; rfl
  | _ => cases hreads

theorem perform_findById {id : SubjectId} {a : Option Subject}
    (h : s.perform now (.findById id) = .ok (a, u)) : a = s.subjects.findById id := by
  cases h
  rfl

theorem perform_findByIdentifier {identifier : String} {a : Option Subject}
    (h : s.perform now (.findByIdentifier identifier) = .ok (a, u)) :
    a = s.subjects.findByIdentifier identifier := by
  cases h
  rfl

theorem perform_findByHash {hash : String} {a : Option Refresh.Record}
    (h : s.perform now (.findByHash hash) = .ok (a, u)) : a = s.tokens.findByHash hash := by
  cases h
  rfl

theorem perform_findResource {id : ResourceId} {a : Option Resource}
    (h : s.perform now (.findResource id) = .ok (a, u)) : a = s.shares.findResource id := by
  cases h
  rfl

theorem perform_insert {r : Refresh.Record} {a : Unit}
    (h : s.perform now (.insert r) = .ok (a, u)) :
    s.tokens.insert r = .ok u.tokens ∧ u.subjects = s.subjects := by
  unfold perform at h
  cases hinsert : s.tokens.insert r with
  | error error =>
      simp only [hinsert] at h
      cases h
  | ok tokens =>
      simp only [hinsert] at h
      cases h
      exact ⟨rfl, rfl⟩

theorem perform_transition {id : RecordId} {expected state : Refresh.State}
    {successor : Option Refresh.Record} {o : Refresh.Transition}
    (h : s.perform now (.transition id expected state successor) = .ok (o, u)) :
    s.tokens.transition now id expected state successor = .ok (o, u.tokens) ∧
      u.subjects = s.subjects := by
  unfold perform at h
  cases htransition : s.tokens.transition now id expected state successor with
  | error error =>
      simp only [htransition] at h
      cases h
  | ok x =>
      simp only [htransition] at h
      cases h
      exact ⟨rfl, rfl⟩

theorem perform_revokeFamily {fam : FamilyId} {reason : Refresh.Reason} {n : Nat}
    (h : s.perform now (.revokeFamily fam reason) = .ok (n, u)) :
    s.tokens.revokeFamily now fam reason = (n, u.tokens) ∧ u.subjects = s.subjects := by
  cases h
  exact ⟨rfl, rfl⟩

theorem perform_revokeSubjectFamilies {subject : SubjectId} {reason : Refresh.Reason}
    {families : List FamilyId}
    (h : s.perform now (.revokeSubjectFamilies subject reason) = .ok (families, u)) :
    s.tokens.revokeSubjectFamilies now subject reason = (families, u.tokens) ∧
      u.subjects = s.subjects := by
  cases h
  exact ⟨rfl, rfl⟩

theorem perform_markPasswordChanged {id : SubjectId} {hash : String} {a : Unit}
    (h : s.perform now (.markPasswordChanged id hash) = .ok (a, u)) :
    u.tokens = s.tokens ∧ s.subjects.markPasswordChanged now id hash = .ok u.subjects := by
  unfold perform at h
  cases hmark : s.subjects.markPasswordChanged now id hash with
  | error error =>
      simp only [hmark] at h
      cases h
  | ok subjects =>
      simp only [hmark] at h
      cases h
      exact ⟨rfl, rfl⟩

theorem perform_recordAuthentication {id : SubjectId} {instant : Instant} {a : Unit}
    (h : s.perform now (.recordAuthentication id instant) = .ok (a, u)) :
    u.tokens = s.tokens ∧ u.subjects = s.subjects.recordAuthentication id instant := by
  cases h
  exact ⟨rfl, rfl⟩

theorem shares_perform {c : Call} {a : c.Reply} (h : s.perform now c = .ok (a, u)) :
    u.shares = s.shares := by
  cases c with
  | insert r =>
      unfold perform at h
      cases hinsert : s.tokens.insert r with
      | error error =>
          simp only [hinsert] at h
          cases h
      | ok tokens =>
          simp only [hinsert] at h
          cases h
          rfl
  | transition id expected state successor =>
      unfold perform at h
      cases htransition : s.tokens.transition now id expected state successor with
      | error error =>
          simp only [htransition] at h
          cases h
      | ok x =>
          simp only [htransition] at h
          cases h
          rfl
  | markPasswordChanged id hash =>
      unfold perform at h
      cases hmark : s.subjects.markPasswordChanged now id hash with
      | error error =>
          simp only [hmark] at h
          cases h
      | ok subjects =>
          simp only [hmark] at h
          cases h
          rfl
  | _ =>
      cases h
      rfl

theorem keyed_perform {c : Call} {a : c.Reply} (hs : s.subjects.Keyed)
    (h : s.perform now c = .ok (a, u)) : u.subjects.Keyed := by
  cases c with
  | insert r =>
      rw [(perform_insert h).right]
      exact hs
  | transition id expected state successor =>
      rw [(perform_transition h).right]
      exact hs
  | revokeFamily fam reason =>
      rw [(perform_revokeFamily h).right]
      exact hs
  | revokeSubjectFamilies subject reason =>
      rw [(perform_revokeSubjectFamilies h).right]
      exact hs
  | recordAuthentication id instant =>
      rw [(perform_recordAuthentication h).right]
      exact hs.modify id (fun _ => rfl)
  | markPasswordChanged id hash =>
      have hmark := (perform_markPasswordChanged h).right
      unfold Directory.markPasswordChanged at hmark
      split at hmark
      · rw [← Except.ok.inj hmark]
        exact hs.modify id (fun _ => rfl)
      · cases hmark
  | _ =>
      rw [perform_of_reads rfl h]
      exact hs

end Store

theorem Service.Operation.keyed_apply {s : Store} (hs : s.subjects.Keyed) (now : Instant)
    (o : Service.Operation) : (o.apply now s).subjects.Keyed := by
  cases o with
  | enroll subject => exact hs.put subject
  | setActive id active => exact hs.modify id (fun _ => rfl)
  | softDelete id => exact hs.modify id (fun _ => rfl)
  | _ => exact hs

end SessionAuth
