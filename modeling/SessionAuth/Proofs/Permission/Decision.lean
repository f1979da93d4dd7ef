import SessionAuth.Permission.Engine
import SessionAuth.Proofs.Flow.Uninterrupted

/-!
# The decision about an access

Three things decide about an access: whether the resource is there, the level that the subject
holds on it, and whether the subject is an administrator who may act.  The level comes from the
book of shares alone.  All questions about an access get the answer of the one decision, and each
of them leaves one event behind and nothing else.
-/

namespace SessionAuth

/-- A world in which nothing but the drawing of times and identifiers has gone on. -/
structure World.Waits (w later : World) : Prop where
  store : later.store = w.store
  trail : later.trail = w.trail

namespace Permission

variable {α : Type}

/-! # Levels -/

def Live (b : Shares) (id : ResourceId) (r : Resource) : Prop :=
  b.findResource id = some r ∧ r.isDeleted = false

def heldOn (b : Shares) (r : Resource) (subject : SubjectId) : Option Level :=
  match b.activeGrant subject r.id with
  | some g => some g.level
  | none => if r.owner = subject ∧ b.history subject r.id = [] then some .owner else none

/-- How a subject comes to a level on a resource. -/
inductive Holds (b : Shares) (subject : SubjectId) (resource : ResourceId) :
    Option Level → Prop where
  | missing (hmissing : ∀ r, ¬ Live b resource r) : Holds b subject resource none
  | granted {r : Resource} {g : Grant} (hlive : Live b resource r)
      (hgrant : b.activeGrant subject r.id = some g) : Holds b subject resource (some g.level)
  | created {r : Resource} (hlive : Live b resource r) (howner : r.owner = subject)
      (hnever : b.history subject r.id = []) : Holds b subject resource (some .owner)
  | lacking {r : Resource} (hlive : Live b resource r)
      (hgrant : b.activeGrant subject r.id = none)
      (howner : r.owner = subject → b.history subject r.id ≠ []) : Holds b subject resource none

theorem holds_heldOn {b : Shares} {resource : ResourceId} {r : Resource}
    (hlive : Live b resource r) (subject : SubjectId) :
    Holds b subject resource (heldOn b r subject) := by
  unfold heldOn
  cases hgrant : b.activeGrant subject r.id with
  | some g => exact Holds.granted hlive hgrant
  | none =>
      by_cases hcreated : r.owner = subject ∧ b.history subject r.id = []
      · rw [if_pos hcreated]
        exact Holds.created hlive hcreated.left hcreated.right
      · rw [if_neg hcreated]
        exact Holds.lacking hlive hgrant (fun howner hnever => hcreated ⟨howner, hnever⟩)

theorem filter_findResource {b : Shares} {id : ResourceId} {r : Resource} :
    (b.findResource id).filter (fun r => !r.isDeleted) = some r ↔ Live b id r := by
  rw [Option.filter_eq_some_iff, Bool.not_eq_true']
  exact Iff.rfl

theorem filter_findResource_eq_none {b : Shares} {id : ResourceId} :
    (b.findResource id).filter (fun r => !r.isDeleted) = none ↔ ∀ r, ¬ Live b id r := by
  constructor
  · intro h r hlive
    rw [filter_findResource.mpr hlive] at h
    cases h
  · intro h
    cases hfound : (b.findResource id).filter (fun r => !r.isDeleted) with
    | none => rfl
    | some r => exact absurd (filter_findResource.mp hfound) (h r)

def heldBy (b : Shares) (subject : SubjectId) (resource : ResourceId) : Option Level :=
  ((b.findResource resource).filter (fun r => !r.isDeleted)).bind (fun r => heldOn b r subject)

theorem heldBy_of_live {b : Shares} {resource : ResourceId} {r : Resource}
    (hlive : Live b resource r) (subject : SubjectId) :
    heldBy b subject resource = heldOn b r subject := by
  unfold heldBy
  rw [filter_findResource.mpr hlive, Option.bind_some]

theorem holds_heldBy (b : Shares) (subject : SubjectId) (resource : ResourceId) :
    Holds b subject resource (heldBy b subject resource) := by
  cases hfound : (b.findResource resource).filter (fun r => !r.isDeleted) with
  | none =>
      unfold heldBy
      rw [hfound]
      exact Holds.missing (filter_findResource_eq_none.mp hfound)
  | some r =>
      have hlive := filter_findResource.mp hfound
      rw [heldBy_of_live hlive]
      exact holds_heldOn hlive subject

theorem run_liveResource (w : World) (resource : ResourceId) (f : Option Resource → Flow α) :
    w.run (liveResource resource >>= f) =
      w.tick.run (f ((w.store.shares.findResource resource).filter (fun r => !r.isDeleted))) := rfl

theorem run_activeGrant (w : World) (subject : SubjectId) (resource : ResourceId)
    (f : Option Grant → Flow α) :
    w.run (Flow.call (.findActiveGrant subject resource) >>= f) =
      w.tick.run (f (w.store.shares.activeGrant subject resource)) := rfl

theorem run_grantHistory (w : World) (subject : SubjectId) (resource : ResourceId)
    (f : History → Flow α) :
    w.run (Flow.call (.grantHistory subject resource) >>= f) =
      w.tick.run (f (w.store.shares.history subject resource)) := rfl

theorem run_levelOn (w : World) (r : Resource) (subject : SubjectId) :
    ∃ later, w.Waits later ∧
      w.run (levelOn r subject) = (.ok (heldOn w.store.shares r subject), later) := by
  unfold levelOn heldOn
  rw [run_activeGrant]
  cases w.store.shares.activeGrant subject r.id with
  | some g => exact ⟨w.tick, ⟨rfl, rfl⟩, rfl⟩
  | none =>
      by_cases howner : r.owner = subject
      · refine ⟨w.tick.tick, ⟨rfl, rfl⟩, ?_⟩
        simp only [if_pos howner]
        rw [run_grantHistory]
        change World.run _
          (if (w.store.shares.history subject r.id).isEmpty = true then _ else _) = _
        by_cases hnever : w.store.shares.history subject r.id = []
        · rw [if_pos (List.isEmpty_iff.mpr hnever), if_pos ⟨howner, hnever⟩]
          rfl
        · rw [if_neg (fun h => hnever (List.isEmpty_iff.mp h)), if_neg (fun h => hnever h.right)]
          rfl
      · refine ⟨w.tick, ⟨rfl, rfl⟩, ?_⟩
        simp only [if_neg howner]
        rw [if_neg (fun h => howner h.left)]
        rfl

theorem run_effectiveLevel (w : World) (subject : SubjectId) (resource : ResourceId) :
    ∃ later, w.Waits later ∧ w.run (effectiveLevel subject resource) =
      (.ok (heldBy w.store.shares subject resource), later) := by
  unfold effectiveLevel heldBy
  rw [run_liveResource]
  cases (w.store.shares.findResource resource).filter (fun r => !r.isDeleted) with
  | none => exact ⟨w.tick, ⟨rfl, rfl⟩, rfl⟩
  | some r =>
      rcases run_levelOn w.tick r subject with ⟨later, hwaits, hrun⟩
      exact ⟨later, ⟨hwaits.store, hwaits.trail⟩, hrun⟩

/-! # Decisions -/

/-- An administrator who may act. -/
def Administrator (d : Directory) (subject : SubjectId) : Prop :=
  ∃ x, d.get? subject = some x ∧ x.isUsable = true ∧ x.admin = true

def Suffices (held : Option Level) (required : Level) : Prop :=
  ∃ level, held = some level ∧ required.rank ≤ level.rank

/-- The decision about an access, by the level that the subject holds. -/
inductive Decides (s : Store) (subject : SubjectId) (resource : ResourceId) (required : Level)
    (held : Option Level) : Decision → Prop where
  | missing (hmissing : ∀ r, ¬ Live s.shares resource r) :
      Decides s subject resource required held (.denied none)
  | granted {r : Resource} {level : Level} (hlive : Live s.shares resource r)
      (hheld : held = some level) (henough : required.rank ≤ level.rank) :
      Decides s subject resource required held (.granted level)
  | override {r : Resource} (hlive : Live s.shares resource r) (hshort : ¬ Suffices held required)
      (hadmin : Administrator s.subjects subject) :
      Decides s subject resource required held .adminOverride
  | denied {r : Resource} (hlive : Live s.shares resource r) (hshort : ¬ Suffices held required)
      (hadmin : ¬ Administrator s.subjects subject) :
      Decides s subject resource required held (.denied held)

/-- How a decision is reported. -/
inductive Announces : Decision → Audit.Kind → Audit.Outcome → Prop where
  | granted (level : Level) : Announces (.granted level) .authzGranted .success
  | override : Announces .adminOverride .authzAdminOverride .success
  | denied (held : Option Level) : Announces (.denied held) .authzDenied .failure

/-- A flow that ends with a result, changes nothing in the store and reports a decision about a
subject in exactly one event. -/
structure Settles (w : World) (x : Flow α) (a : α) (subject : SubjectId) (d : Decision) :
    Prop where
  gives : w.Gives x a w.store
  reports : ∃ e, (w.run x).2.trail = w.trail ++ [e] ∧ e.subject = some subject ∧
    Announces d e.kind e.outcome

theorem Settles.map {β : Type} {w : World} {x : Flow α} {a : α} {subject : SubjectId}
    {d : Decision} (h : Settles w x a subject d) (g : α → β) :
    Settles w (x >>= fun a => pure (g a)) (g a) subject d := by
  have hresult : w.run x = (.ok a, (w.run x).2) := Prod.ext h.gives.left rfl
  have hrun : w.run (x >>= fun a => pure (g a)) = (.ok (g a), (w.run x).2) :=
    World.run_bind_of_ok hresult _
  constructor
  · constructor
    · rw [hrun]
    · rw [hrun]
      exact h.gives.right
  · rw [hrun]
    exact h.reports

theorem settles_of_waits {w later : World} (hwaits : w.Waits later) {x y : Flow α} {a : α}
    {subject : SubjectId} {d : Decision} (hrun : w.run x = later.run y)
    (h : Settles later y a subject d) : Settles w x a subject d := by
  constructor
  · constructor
    · rw [hrun]
      exact h.gives.left
    · rw [hrun, ← hwaits.store]
      exact h.gives.right
  · rw [hrun, ← hwaits.trail]
    exact h.reports

theorem settles_reportDecision (w : World) (subject : SubjectId) (resource : ResourceId)
    (required : Level) (d : Decision) (reason : Option String) :
    Settles w (reportDecision subject resource required d reason >>= fun _ => pure d) d subject
      d := by
  cases d with
  | granted level => exact ⟨⟨rfl, rfl⟩, _, rfl, rfl, Announces.granted level⟩
  | adminOverride => exact ⟨⟨rfl, rfl⟩, _, rfl, rfl, Announces.override⟩
  | denied held => exact ⟨⟨rfl, rfl⟩, _, rfl, rfl, Announces.denied held⟩

theorem run_isAdministrator (w : World) (subject : SubjectId) (f : Bool → Flow α) :
    w.run (isAdministrator subject >>= f) =
      w.tick.run (f ((w.store.subjects.findById subject).any (fun s => s.isUsable && s.admin))) :=
  rfl

theorem any_findById {d : Directory} {subject : SubjectId} :
    (d.findById subject).any (fun s => s.isUsable && s.admin) = true ↔ Administrator d subject := by
  rw [Option.any_eq_true]
  unfold Directory.findById
  simp only [Option.filter_eq_some_iff, Bool.and_eq_true, Bool.not_eq_true']
  constructor
  · intro h
    rcases h with ⟨x, ⟨hx, _⟩, husable, hadmin⟩
    exact ⟨x, hx, husable, hadmin⟩
  · intro h
    rcases h with ⟨x, hx, husable, hadmin⟩
    have hpresent : x.isDeleted = false := by
      unfold Subject.isUsable at husable
      simp only [Bool.and_eq_true, Bool.not_eq_true'] at husable
      exact husable.right
    exact ⟨x, ⟨hx, hpresent⟩, husable, hadmin⟩

theorem run_decideHeld (w : World) {resource : ResourceId} {r : Resource}
    (hlive : Live w.store.shares resource r) (subject : SubjectId) (required : Level)
    (held : Option Level) :
    ∃ d later, w.Waits later ∧ Decides w.store subject resource required held d ∧
      w.run (decideHeld subject required held) = (.ok d, later) := by
  unfold decideHeld
  cases henough : held.filter (fun level => level.satisfies required) with
  | some level =>
      rcases Option.filter_eq_some_iff.mp henough with ⟨hheld, hsatisfies⟩
      refine ⟨.granted level, w, ⟨rfl, rfl⟩, ?_, rfl⟩
      exact Decides.granted hlive hheld (of_decide_eq_true hsatisfies)
  | none =>
      have hshort : ¬ Suffices held required := by
        intro h
        rcases h with ⟨level, hheld, hrank⟩
        rw [Option.filter_eq_none_iff] at henough
        exact henough level hheld (decide_eq_true hrank)
      simp only []
      rw [run_isAdministrator]
      cases hadmin : (w.store.subjects.findById subject).any (fun s => s.isUsable && s.admin) with
      | true =>
          refine ⟨.adminOverride, w.tick, ⟨rfl, rfl⟩, ?_, rfl⟩
          exact Decides.override hlive hshort (any_findById.mp hadmin)
      | false =>
          refine ⟨.denied held, w.tick, ⟨rfl, rfl⟩, ?_, rfl⟩
          refine Decides.denied hlive hshort (fun h => ?_)
          rw [any_findById.mpr h] at hadmin
          cases hadmin

/-- A decision is made by the level that the subject holds, and reported. -/
theorem settles_decide (w : World) (subject : SubjectId) (resource : ResourceId)
    (required : Level) :
    ∃ d, Decides w.store subject resource required (heldBy w.store.shares subject resource) d ∧
      Settles w (decide subject resource required) d subject d := by
  cases hfound : (w.store.shares.findResource resource).filter (fun r => !r.isDeleted) with
  | none =>
      refine ⟨.denied none, Decides.missing (filter_findResource_eq_none.mp hfound), ?_⟩
      have hwaits : w.Waits w.tick := ⟨rfl, rfl⟩
      refine settles_of_waits hwaits ?_ (settles_reportDecision w.tick subject resource required
        (.denied none) (some "resource_not_found"))
      unfold decide
      rw [run_liveResource, hfound]
  | some r =>
      have hlive := filter_findResource.mp hfound
      rcases run_levelOn w.tick r subject with ⟨u, hu, hlevel⟩
      change w.tick.run (levelOn r subject) = (.ok (heldOn w.store.shares r subject), u) at hlevel
      have hlive' : Live u.store.shares resource r := by
        rw [hu.store]
        exact hlive
      rcases run_decideHeld u hlive' subject required (heldOn w.store.shares r subject) with
        ⟨d, v, hv, hdecides, hdecided⟩
      rw [heldBy_of_live hlive]
      refine ⟨d, ?_, ?_⟩
      · rw [hu.store] at hdecides
        exact hdecides
      · have hwaits : w.Waits v := ⟨hv.store.trans hu.store, hv.trail.trans hu.trail⟩
        refine settles_of_waits hwaits ?_
          (settles_reportDecision v subject resource required d none)
        unfold decide
        rw [run_liveResource, hfound]
        simp only []
        rw [World.run_bind_of_ok hlevel, World.run_bind_of_ok hdecided]

def answerOf (d : Decision) : Except Failure Decision :=
  if d.isAllowed then .ok d else .error .permissionDenied

theorem Settles.require {w : World} {subject : SubjectId} {resource : ResourceId}
    {required : Level} {d : Decision}
    (h : Settles w (decide subject resource required) d subject d) :
    Settles w (require subject resource required) (answerOf d) subject d :=
  h.map answerOf

theorem Decision.isAllowed_eq_false {d : Decision} :
    d.isAllowed = false ↔ ∃ held, d = .denied held := by
  cases d with
  | denied held => exact ⟨fun _ => ⟨held, rfl⟩, fun _ => rfl⟩
  | granted level => exact ⟨nofun, nofun⟩
  | adminOverride => exact ⟨nofun, nofun⟩

theorem Decides.isAllowed_mono {s : Store} {subject : SubjectId} {resource : ResourceId}
    {lower higher : Level} {held : Option Level} {d e : Decision}
    (hd : Decides s subject resource higher held d) (he : Decides s subject resource lower held e)
    (hrank : lower.rank ≤ higher.rank) (hallowed : d.isAllowed = true) : e.isAllowed = true := by
  cases he with
  | granted => rfl
  | override => rfl
  | missing hmissing =>
      cases hd with
      | missing => cases hallowed
      | granted hlive => exact absurd hlive (hmissing _)
      | override hlive => exact absurd hlive (hmissing _)
      | denied => cases hallowed
  | denied hlive hshort hadmin =>
      cases hd with
      | missing => cases hallowed
      | granted _ hheld henough => exact absurd ⟨_, hheld, Nat.le_trans hrank henough⟩ hshort
      | override _ _ hadmin' => exact absurd hadmin' hadmin
      | denied => cases hallowed

/-! # Every store -/

/-- In every world, a decision about an access is the one that is due by the level that the
subject holds.  That level is what the question for it is answered in every world with the same
book of shares, whoever is an administrator there.  All other questions about the access get the
answer that follows from the decision, which allows the access unless it denies it.  None of them
changes the store, and each of them reports exactly the decision.  What is allowed is allowed at
every lower level, too. -/
theorem decide_as_specified (w : World) (subject : SubjectId) (resource : ResourceId)
    (required : Level) :
    ∃ held d,
      Holds w.store.shares subject resource held ∧
      (∀ v : World, v.store.shares = w.store.shares →
        v.Gives (effectiveLevel subject resource) held v.store ∧
          (v.run (effectiveLevel subject resource)).2.trail = v.trail) ∧
      Decides w.store subject resource required held d ∧
      (∀ e : Decision, e.isAllowed = false ↔ ∃ level, e = .denied level) ∧
      Settles w (decide subject resource required) d subject d ∧
      Settles w (authorize subject resource required) d.isAllowed subject d ∧
      Settles w (require subject resource required) (answerOf d) subject d ∧
      (∃ o, Decides w.store subject resource .owner held o ∧
        Settles w (decide subject resource .owner) o subject o ∧
        Settles w (ensureCanManageGrants subject resource) (answerOf o) subject o) ∧
      ∀ lower : Level, lower.rank ≤ required.rank →
        ∃ e, Settles w (decide subject resource lower) e subject e ∧
          (d.isAllowed = true → e.isAllowed = true) := by
  rcases settles_decide w subject resource required with ⟨d, hdecides, hsettles⟩
  rcases settles_decide w subject resource .owner with ⟨o, howner, hmanages⟩
  refine ⟨heldBy w.store.shares subject resource, d, holds_heldBy _ _ _, ?_, hdecides,
    fun _ => Decision.isAllowed_eq_false, hsettles, hsettles.map Decision.isAllowed,
    hsettles.require, ⟨o, howner, hmanages, hmanages.require⟩, ?_⟩
  · intro v hshares
    rcases run_effectiveLevel v subject resource with ⟨later, hwaits, hrun⟩
    rw [hshares] at hrun
    unfold World.Gives
    rw [hrun]
    exact ⟨⟨rfl, hwaits.store⟩, hwaits.trail⟩
  · intro lower hrank
    rcases settles_decide w subject resource lower with ⟨e, hlower, hsettles'⟩
    exact ⟨e, hsettles', hdecides.isAllowed_mono hlower hrank⟩

end Permission
end SessionAuth
