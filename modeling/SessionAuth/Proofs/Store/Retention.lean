import SessionAuth.Proofs.Refresh.Filled
import SessionAuth.Proofs.Refresh.InPlace
import SessionAuth.Proofs.Store.Calls

/-!
# What the store keeps

The interface of the store takes calls with any arguments.  The index refuses a hash that is in
use, and nothing refuses an identifier that is in use.  So no two records ever have the same hash,
but a record that comes under the identifier of another one takes its place.  The records that were
accepted are all kept just if no two of them came under the same identifier.
-/

namespace SessionAuth

open Time Refresh

namespace Store

/-! # Sequences of calls -/

def Call.accepted : (c : Call) → c.Reply → Option Record
  | .insert r, _ => some r
  | .transition _ _ _ successor, .applied => successor
  | _, _ => none

/-- Performs calls one after the other, each at its instant.  Gives the records that were accepted,
and the store in the end. -/
def serve (s : Store) : List (Instant × Call) → List Record × Store
  | [] => ([], s)
  | (now, c) :: calls =>
      match s.perform now c with
      | .error _ => s.serve calls
      | .ok (a, u) => ((c.accepted a).toList ++ (u.serve calls).1, (u.serve calls).2)

/-- A transition that makes one record active at most, and only in place of another one. -/
def Call.Frugal : Call → Prop
  | .transition _ expected state successor =>
      (state :: (successor.map Record.state).toList).count .active ≤ [expected].count .active
  | _ => True

section Induction

variable {C : Call → Prop} {P : List Record → Table → Prop}
  (hadded : ∀ records t r, P records t → t.families.get? r.family = none →
    t.byHash.get? r.tokenHash = none → P (records ++ [r]) (t.withFamily r))
  (hmoved : ∀ records t now id expected state successor r, P records t →
    C (.transition id expected state successor) → t.records.get? id = some r →
    t.isClosed r.family = false → r.state = expected →
    (∀ s, successor = some s → s.family = r.family ∧ t.byHash.get? s.tokenHash = none) →
    P (records ++ successor.toList) (t.moved now id state successor))
  (hwithdrawn : ∀ records t now fam reason, P records t →
    P records (t.revokeFamily now fam reason).2)

include hadded hmoved hwithdrawn

/-- What new families, moves and withdrawals keep, every call keeps. -/
theorem perform_induction {s u : Store} {now : Instant} {c : Call} {a : c.Reply}
    {records : List Record} (hs : P records s.tokens) (hc : C c)
    (h : s.perform now c = .ok (a, u)) : P (records ++ (c.accepted a).toList) u.tokens := by
  have hnothing : c.accepted a = none → P records u.tokens →
      P (records ++ (c.accepted a).toList) u.tokens := by
    intro hnone hu
    rw [hnone, Option.toList_none, List.append_nil]
    exact hu
  have hread : Service.reads c = true → P records u.tokens := by
    intro hreads
    rw [perform_of_reads hreads h]
    exact hs
  cases c with
  | insert r =>
      rcases Table.insert_eq_ok (perform_insert h).left with ⟨hfamily, hhash, htable⟩
      rw [htable]
      exact hadded records s.tokens r hs hfamily hhash
  | transition id expected state successor =>
      have htransition := (perform_transition h).left
      generalize u.tokens = t at htransition hnothing ⊢
      cases Table.transition_moves htransition with
      | applied hrecord hopen hstate hsuccessor =>
          exact hmoved records s.tokens now id expected state successor _ hs hc hrecord hopen
            hstate hsuccessor
      | _ => exact hnothing rfl hs
  | revokeFamily fam reason =>
      have htable : (s.tokens.revokeFamily now fam reason).2 = u.tokens :=
        congrArg Prod.snd (perform_revokeFamily h).left
      apply hnothing rfl
      rw [← htable]
      exact hwithdrawn records s.tokens now fam reason hs
  | revokeSubjectFamilies subject reason =>
      have htable : (s.tokens.revokeSubjectFamilies now subject reason).2 = u.tokens :=
        congrArg Prod.snd (perform_revokeSubjectFamilies h).left
      apply hnothing rfl
      rw [← htable]
      exact Table.revokeSubjectFamilies_induction now reason subject hs
        (fun t fam => hwithdrawn records t now fam reason)
  | markPasswordChanged id hash =>
      apply hnothing rfl
      rw [(perform_markPasswordChanged h).left]
      exact hs
  | recordAuthentication id instant =>
      apply hnothing rfl
      rw [(perform_recordAuthentication h).left]
      exact hs
  | _ => exact hnothing rfl (hread rfl)

theorem serve_induction {s : Store} {calls : List (Instant × Call)} {records : List Record}
    (hs : P records s.tokens) (hcalls : ∀ x ∈ calls, C x.2) :
    P (records ++ (s.serve calls).1) (s.serve calls).2.tokens := by
  induction calls generalizing s records with
  | nil => simpa [serve] using hs
  | cons x calls ih =>
      rcases x with ⟨now, c⟩
      rcases List.forall_mem_cons.mp hcalls with ⟨hc, hrest⟩
      unfold serve
      cases h : s.perform now c with
      | error e => exact ih hs hrest
      | ok x =>
          rcases x with ⟨a, u⟩
          have hu := perform_induction hadded hmoved hwithdrawn hs hc h
          simpa using ih hu hrest

end Induction

/-! # Stores that calls have filled -/

theorem nodup_id_append {records new : List Record} (h : ((records ++ new).map Record.id).Nodup) :
    (records.map Record.id).Nodup ∧ ∀ q ∈ records, ∀ r ∈ new, q.id ≠ r.id := by
  rw [List.map_append, List.nodup_append] at h
  rcases h with ⟨hbefore, _, hnew⟩
  refine ⟨hbefore, ?_⟩
  intro q hq r hr
  exact hnew q.id (List.mem_map_of_mem hq) r.id (List.mem_map_of_mem hr)

/-- A table that keeps the records that were accepted, unless two of them came under the same
identifier. -/
structure Retains (records : List Record) (t : Table) : Prop where
  filled : t.Filled records
  holds : (records.map Record.id).Nodup → ∀ r ∈ records, t.Holds r

namespace Retains

variable {records : List Record} {t : Table} (h : Retains records t)
include h

theorem added {r : Record} (hfamily : t.families.get? r.family = none)
    (hhash : t.byHash.get? r.tokenHash = none) : Retains (records ++ [r]) (t.withFamily r) where
  filled := h.filled.added hhash
  holds := by
    intro hnodup
    rcases nodup_id_append hnodup with ⟨hbefore, hnew⟩
    intro q hq
    rcases List.mem_append.mp hq with hmem | hlast
    · have hid : q.id ≠ r.id := hnew q hmem r (List.mem_singleton.mpr rfl)
      exact (h.holds hbefore q hmem).added hid hfamily
    · rw [List.mem_singleton.mp hlast]
      exact Table.Holds.new t r

theorem moved {now : Instant} {id : RecordId} {state : State} {successor : Option Record}
    {r : Record} (hopen : t.isClosed r.family = false)
    (hsuccessor : ∀ s, successor = some s →
      s.family = r.family ∧ t.byHash.get? s.tokenHash = none) :
    Retains (records ++ successor.toList) (t.moved now id state successor) where
  filled := h.filled.moved hopen hsuccessor
  holds := by
    intro hnodup
    rcases nodup_id_append hnodup with ⟨hbefore, hnew⟩
    intro q hq
    rcases List.mem_append.mp hq with hmem | hlast
    · refine (h.holds hbefore q hmem).moved ?_ now id state
      intro s hs hid
      exact hnew q hmem s (Option.mem_toList.mpr hs) hid.symm
    · rw [Option.mem_toList] at hlast
      rcases Table.isClosed_eq_false.mp hopen with ⟨g, hg, _⟩
      rw [hlast]
      exact Table.Holds.successor hg (hsuccessor q hlast).left now id state

theorem withdrawn (now : Instant) (fam : FamilyId) (reason : Reason) :
    Retains records (t.revokeFamily now fam reason).2 where
  filled := h.filled.withdrawn now fam reason
  holds := fun hnodup r hr => (h.holds hnodup r hr).withdrawn now fam reason

end Retains

variable (calls : List (Instant × Call))

theorem retains_serve : Retains (empty.serve calls).1 (empty.serve calls).2.tokens := by
  have hempty : Retains [] empty.tokens := by
    refine ⟨Table.Filled.empty, ?_⟩
    intro _ r hr
    cases hr
  refine serve_induction (C := fun _ => True) (P := Retains) ?_ ?_ ?_ hempty (fun _ _ => trivial)
  · intro records t r h hfamily hhash
    exact h.added hfamily hhash
  · intro records t now id expected state successor r h _ _ hopen _ hsuccessor
    exact h.moved hopen hsuccessor
  · intro records t now fam reason h
    exact h.withdrawn now fam reason

theorem soleActive_serve (hfrugal : ∀ x ∈ calls, x.2.Frugal) :
    (empty.serve calls).2.tokens.SoleActive := by
  have hempty : Table.Filled [] empty.tokens ∧ empty.tokens.SoleActive := by
    refine ⟨Table.Filled.empty, ?_⟩
    intro id id' q q' hq
    cases hq
  refine (serve_induction (C := Call.Frugal)
    (P := fun records t => t.Filled records ∧ t.SoleActive) ?_ ?_ ?_ hempty hfrugal).right
  · intro records t r h hfamily hhash
    exact ⟨h.left.added hhash, h.right.added h.left hfamily⟩
  · intro records t now id expected state successor r h hcount hr hopen hstate hsuccessor
    rw [← hstate] at hcount
    exact ⟨h.left.moved hopen hsuccessor,
      h.right.moved hr (fun s hs => (hsuccessor s hs).left) hcount⟩
  · intro records t now fam reason h
    exact ⟨h.left.withdrawn now fam reason, h.right.withdrawn now fam reason⟩

/-- Whatever calls a store is given, the records that it accepts have different hashes, and so have
the records that it has.  It keeps all that it has accepted just if no two of these records came
under the same identifier.  If no transition makes more records active than it finds, no family has
two active records. -/
theorem retention :
    let accepted := (empty.serve calls).1
    let t := (empty.serve calls).2.tokens
    (accepted.map Record.tokenHash).Nodup ∧
    (∀ id id' q q', t.records.get? id = some q → t.records.get? id' = some q' →
      q.tokenHash = q'.tokenHash → id = id') ∧
    ((∀ r ∈ accepted, t.Keeps r) ↔ (accepted.map Record.id).Nodup) ∧
    ((∀ x ∈ calls, x.2.Frugal) → t.SoleActive) := by
  have h := retains_serve calls
  refine ⟨h.filled.nodup, ?_, ⟨h.filled.nodup_id, ?_⟩, soleActive_serve calls⟩
  · intro id id' q q' hq hq' hsame
    have hid := h.filled.hashed id q hq
    rw [hsame, h.filled.hashed id' q' hq'] at hid
    exact (Option.some.inj hid).symm
  · intro hnodup r hr
    exact (h.filled.keeps_iff hr).mpr (h.holds hnodup r hr)

def Sample.exchanging : List (Instant × Call) :=
  [(.epoch, .insert (Refresh.Sample.issued 0 0 "a")),
   (.epoch, .transition ⟨.ofNat 0⟩ .active .consumed (some (Refresh.Sample.issued 1 0 "b")))]

/-- The record of a session that was refreshed is kept. -/
theorem retention_exchanging :
    (empty.serve Sample.exchanging).2.tokens.Keeps (Refresh.Sample.issued 0 0 "a") ∧
      (empty.serve Sample.exchanging).2.tokens.SoleActive := by
  have haccepted : (empty.serve Sample.exchanging).1 =
      [Refresh.Sample.issued 0 0 "a", Refresh.Sample.issued 1 0 "b"] := rfl
  rcases retention Sample.exchanging with ⟨_, _, hkeeps, hsole⟩
  constructor
  · refine hkeeps.mpr ?_ _ ?_
    · rw [haccepted]
      decide
    · rw [haccepted]
      exact List.mem_cons_self
  · apply hsole
    intro x hx
    rcases List.mem_pair.mp hx with rfl | rfl
    · trivial
    · show List.count State.active [.consumed, .active] ≤ List.count State.active [.active]
      decide

def Sample.overwriting : List (Instant × Call) :=
  [(.epoch, .insert (Refresh.Sample.issued 0 0 "a")),
   (.epoch, .insert (Refresh.Sample.issued 0 1 "b"))]

def Sample.doubling : List (Instant × Call) :=
  [(.epoch, .insert (Refresh.Sample.issued 0 0 "a")),
   (.epoch, .transition ⟨.ofNat 0⟩ .active .active (some (Refresh.Sample.issued 1 0 "b")))]

/-- A store loses a record that it has accepted to another one under the same identifier, and it
makes two records of a family active if a transition asks for it. -/
theorem retention_overwriting :
    (∃ r ∈ (empty.serve Sample.overwriting).1,
      ¬ (empty.serve Sample.overwriting).2.tokens.Keeps r) ∧
    ¬ (empty.serve Sample.doubling).2.tokens.SoleActive := by
  constructor
  · have haccepted : (empty.serve Sample.overwriting).1 =
        [Refresh.Sample.issued 0 0 "a", Refresh.Sample.issued 0 1 "b"] := rfl
    have hfound : (empty.serve Sample.overwriting).2.tokens.findByHash "a" =
        some (Refresh.Sample.issued 0 1 "b") := rfl
    refine ⟨Refresh.Sample.issued 0 0 "a", ?_, ?_⟩
    · rw [haccepted]
      exact List.mem_cons_self
    · intro hkeeps
      rcases hkeeps with ⟨q, hq, _, hqr⟩
      cases hfound.symm.trans hq
      exact absurd hqr.tokenHash (by decide)
  · have hfirst : (empty.serve Sample.doubling).2.tokens.records.get? ⟨.ofNat 0⟩ =
        some ((Refresh.Sample.issued 0 0 "a").moveTo .epoch .active (some ⟨.ofNat 1⟩)) := rfl
    have hsecond : (empty.serve Sample.doubling).2.tokens.records.get? ⟨.ofNat 1⟩ =
        some (Refresh.Sample.issued 1 0 "b") := rfl
    intro hsole
    have hsame := hsole _ _ _ _ hfirst hsecond rfl rfl rfl
    exact absurd hsame (by decide)

end Store

end SessionAuth
