import SessionAuth.Proofs.Service.Conduct
import SessionAuth.Proofs.Service.Moments
import SessionAuth.Proofs.Store.Retention

/-!
# Records do not disappear

No call of the store takes a record away.  At worst another record takes its place, if it comes
under the same identifier.  So whatever a request has found is still there in some form when the
request comes back to it, and this does not depend on the identifiers that are drawn.
-/

namespace SessionAuth

open Time Refresh

namespace Refresh.Table

variable {t u : Table}

/-- Tells that a table has a record under every identifier under which another one has one, and
that all its records are under their own identifiers. -/
structure Covers (t u : Table) : Prop where
  keyed : ∀ id r, u.records.get? id = some r → r.id = id
  known : ∀ id, t.records.contains id = true → u.records.contains id = true

namespace Covers

theorem refl (hkeyed : ∀ id r, t.records.get? id = some r → r.id = id) : Covers t t :=
  ⟨hkeyed, fun _ hid => hid⟩

variable (h : Covers t u)
include h

theorem trans {v : Table} (h' : Covers u v) : Covers t v :=
  ⟨h'.keyed, fun id hid => h'.known id (h.known id hid)⟩

theorem added (r : Record) : Covers t (u.withFamily r) where
  keyed := by
    intro id q hq
    rcases eq_or_of_withFamily hq with ⟨hid, rfl⟩ | ⟨_, hold⟩
    · exact hid.symm
    · exact h.keyed id q hold
  known := by
    intro id hid
    unfold Registry.contains
    rw [get?_records_withFamily]
    split
    case isTrue => rfl
    case isFalse => exact h.known id hid

theorem moved (now : Instant) (id : RecordId) (state : State) (successor : Option Record) :
    Covers t (u.moved now id state successor) where
  keyed := by
    intro k q hq
    rcases exists_of_moved hq with ⟨r, hr, hqr, _⟩
    rw [hqr.id]
    rcases hr with ⟨_, hid⟩ | ⟨_, hold⟩
    · exact hid
    · exact h.keyed k r hold
  known := by
    intro k hk
    unfold Registry.contains
    rw [get?_records_moved, Option.isSome_map, Option.isSome_or, Bool.or_eq_true]
    exact Or.inr (h.known k hk)

theorem withdrawn (now : Instant) (fam : FamilyId) (reason : Reason) :
    Covers t (u.revokeFamily now fam reason).2 where
  keyed := by
    intro id q hq
    rcases exists_of_revokeFamily hq with ⟨r, hr, hqr, _⟩
    rw [hqr.id]
    exact h.keyed id r hr
  known := by
    intro id hid
    have hknown := h.known id hid
    unfold Registry.contains at hknown ⊢
    rcases get?_records_revokeFamily_cases (t := u) now fam reason id with hsame | hmap
    · rw [hsame]
      exact hknown
    · rw [hmap, Option.isSome_map]
      exact hknown

end Covers

end Refresh.Table

theorem Store.covers_perform {s u : Store} {now : Instant} {c : Store.Call} {a : c.Reply}
    (hkeyed : ∀ id r, s.tokens.records.get? id = some r → r.id = id)
    (h : s.perform now c = .ok (a, u)) : s.tokens.Covers u.tokens := by
  refine @Store.perform_induction (fun _ => True) (fun _ => s.tokens.Covers) ?_ ?_ ?_ s u now c a []
    (Refresh.Table.Covers.refl hkeyed) trivial h
  · intro _ t r ht _ _
    exact ht.added r
  · intro _ t now id expected state successor r ht _ _ _ _ _
    exact ht.moved now id state successor
  · intro _ t now fam reason ht
    exact ht.withdrawn now fam reason

namespace Service

variable {f : Session.Facade} {s t : Service}

/-! # What a task asks for -/

def Awaits (s : Service) (i : Nat) (c : Store.Call) : Prop :=
  ∃ (q : Request) (next : Except StoreError c.Reply → Flow q.Reply),
    s.tasks[i]? = some ⟨q, .step (.store c) next⟩

theorem Reachable.asks (hs : Reachable f s) {i : Nat} {c : Store.Call} (h : s.Awaits i c) :
    ∃ q, (∃ x, s.tasks[i]? = some ⟨q, x⟩) ∧ q.Asks f (s.past i) c := by
  have htasks : OfTasks (fun q past x => Flow.Keeps (q.Allows f) (q.Ends f) past x) s := by
    apply hs.ofTasks (Request.keeps f)
    intro q past e next r hkeeps
    exact (Flow.keeps_step.mp hkeeps).right r
  rcases h with ⟨q, next, htask⟩
  exact ⟨q, ⟨_, htask⟩, (Flow.keeps_step.mp (htasks.holds i q _ htask)).left⟩

theorem Takes.awaits {i : Nat} {c : Store.Call} {r : Except StoreError c.Reply}
    (h : Takes s ⟨i, ⟨.store c, r⟩⟩ t) : s.Awaits i c := by
  cases h with
  | mk htask _ => exact ⟨_, _, htask⟩

/-! # What was found stays -/

theorem Takes.covers {e : Entry} (h : Takes s e t)
    (hkeyed : ∀ id r, s.tokens.records.get? id = some r → r.id = id) :
    s.tokens.Covers t.tokens := by
  have hidle : t.world.store = s.world.store → s.tokens.Covers t.tokens := by
    intro hstore
    unfold Service.tokens
    rw [hstore]
    exact Table.Covers.refl hkeyed
  rcases e with ⟨i, effect, r⟩
  cases effect with
  | store c =>
      rcases h.meets.store_cases with ⟨_, _, hstore⟩ | ⟨now, a, rfl, hperform⟩
      · exact hidle hstore
      · exact Store.covers_perform hkeyed hperform
  | _ => exact hidle (h.meets.store_eq rfl)

theorem Step.covers (h : Step f s t)
    (hkeyed : ∀ id r, s.tokens.records.get? id = some r → r.id = id) :
    s.tokens.Covers t.tokens := by
  cases h with
  | idle => exact Table.Covers.refl hkeyed
  | start q => exact Table.Covers.refl hkeyed
  | turn h => exact h.covers hkeyed
  | operate o =>
      have htokens : (s.operate o).tokens = s.tokens := Operation.tokens_apply _ _ o
      rw [htokens]
      exact Table.Covers.refl hkeyed

theorem Reachable.keyed (hs : Reachable f s) :
    ∀ id r, s.tokens.records.get? id = some r → r.id = id := by
  rcases hs with ⟨w, hw, hrun⟩
  refine hrun.induction
    (P := fun u => ∀ id r, u.tokens.records.get? id = some r → r.id = id) ?_ ?_
  · intro id r hr
    have htokens : (idle w).tokens = .empty := hw.tokens
    rw [htokens] at hr
    cases hr
  · intro u v _ hu hstep _
    exact (hstep.covers hu).keyed

/-- Records never disappear, even where the identifiers that are drawn are not distinct. -/
theorem Reachable.covers (hs : Reachable f s) (hst : Reaches f s t) :
    s.tokens.Covers t.tokens := by
  refine hst.induction (P := fun u => s.tokens.Covers u.tokens)
    (Table.Covers.refl hs.keyed) ?_
  intro u v _ hu hstep _
  exact hu.trans (hstep.covers hu.keyed)

theorem Reachable.known_of_found (hs : Reachable f s) {i : Nat} {p : Secret} {r : Record}
    (h : found p (some r) ∈ s.past i) : ∃ q, s.tokens.records.get? r.id = some q := by
  rcases hs.performed_of_mem h with ⟨u, v, now, hmoment, hperform⟩
  -- What is found by its hash is read from the records.
  have hread := (Store.perform_findByHash hperform).symm
  rcases Table.findByHash_eq_some.mp hread with ⟨id, _, hr⟩
  rw [hmoment.before.keyed id r hr]
  apply Option.isSome_iff_exists.mp
  apply (hmoment.before.covers hmoment.reaches).known id
  unfold Registry.contains
  rw [hr]
  rfl

end Service

end SessionAuth
