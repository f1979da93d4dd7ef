import Mathlib.Data.List.Forall2
import SessionAuth.Proofs.Refresh.Operations

/-!
# Tables that differ in their hashes

Two tables may hold the same records under different hashes.  As long as equal hashes stand for
equal hashes, every operation does the same to both of them.
-/

namespace SessionAuth

open Time

/-! # Finite maps whose entries correspond -/

namespace Registry

variable {κ ν : Type}

/-- A correspondence in which equal keys stand for equal keys. -/
def Faithful (K : κ → κ → Prop) : Prop :=
  ∀ a a' b b', K a a' → K b b' → (a = b ↔ a' = b')

theorem faithful_eq : Faithful (Eq : κ → κ → Prop) := by
  rintro a _ b _ rfl rfl
  exact Iff.rfl

/-- Finite maps whose entries correspond one by one and in their order. -/
def Mirrored (K : κ → κ → Prop) (V : ν → ν → Prop) (r r' : Registry κ ν) : Prop :=
  List.Forall₂ (fun e e' => K e.1 e'.1 ∧ V e.2 e'.2) r.entries r'.entries

variable {K : κ → κ → Prop} {V : ν → ν → Prop} {r r' : Registry κ ν}

theorem Mirrored.values (h : Mirrored K V r r') : List.Forall₂ V r.values r'.values := by
  unfold Registry.values
  rw [List.forall₂_map_left_iff, List.forall₂_map_right_iff]
  exact h.imp (fun _ _ he => he.right)

variable [DecidableEq κ] (hK : Faithful K) {k k' : κ} (hk : K k k')
include hK hk

theorem lookup_mirrored {xs ys : List (κ × ν)}
    (h : List.Forall₂ (fun e e' => K e.1 e'.1 ∧ V e.2 e'.2) xs ys) :
    Option.Rel V (xs.lookup k) (ys.lookup k') := by
  induction h with
  | nil => exact Option.Rel.none
  | @cons e e' xs ys he _ ih =>
      rcases e with ⟨a, v⟩
      rcases e' with ⟨a', v'⟩
      have hsame := hK k k' a a' hk he.left
      by_cases ha : k = a
      · rw [List.lookup_cons, List.lookup_cons, beq_iff_eq.mpr ha, beq_iff_eq.mpr (hsame.mp ha)]
        exact Option.Rel.some he.right
      · have ha' : ¬ k' = a' := fun heq => ha (hsame.mpr heq)
        rw [List.lookup_cons, List.lookup_cons, beq_eq_false_iff_ne.mpr ha,
          beq_eq_false_iff_ne.mpr ha']
        exact ih

theorem Mirrored.get? (h : Mirrored K V r r') : Option.Rel V (r.get? k) (r'.get? k') :=
  lookup_mirrored hK hk h

theorem Mirrored.contains (h : Mirrored K V r r') : r.contains k = r'.contains k' := by
  have hget := h.get? hK hk
  unfold Registry.contains
  generalize r.get? k = x at hget
  generalize r'.get? k' = x' at hget
  cases hget with
  | none => rfl
  | some _ => rfl

theorem Mirrored.modify (h : Mirrored K V r r') {f f' : ν → ν}
    (hf : ∀ v v', V v v' → V (f v) (f' v')) : Mirrored K V (r.modify k f) (r'.modify k' f') := by
  unfold Mirrored Registry.modify modifyEntries
  rw [List.forall₂_map_left_iff, List.forall₂_map_right_iff]
  apply List.Forall₂.imp _ h
  intro e e' he
  have hsame := hK e.1 e'.1 k k' he.left hk
  by_cases ha : e.1 = k
  · rw [if_pos ha, if_pos (hsame.mp ha)]
    exact ⟨he.left, hf _ _ he.right⟩
  · rw [if_neg ha, if_neg (fun heq => ha (hsame.mpr heq))]
    exact he

omit [DecidableEq κ] in
theorem Mirrored.mem_keys (h : Mirrored K V r r') :
    k ∈ r.entries.map Prod.fst ↔ k' ∈ r'.entries.map Prod.fst := by
  unfold Mirrored at h
  generalize r.entries = xs at h
  generalize r'.entries = ys at h
  induction h with
  | nil => simp
  | cons he _ ih => simp only [List.map_cons, List.mem_cons, hK k k' _ _ hk he.left, ih]

theorem Mirrored.insert (h : Mirrored K V r r') {v v' : ν} (hv : V v v') :
    Mirrored K V (r.insert k v) (r'.insert k' v') := by
  have hmem := h.mem_keys hK hk
  unfold Registry.insert
  by_cases hold : k ∈ r.entries.map Prod.fst
  · rw [dif_pos hold, dif_pos (hmem.mp hold)]
    exact h.modify hK hk (fun _ _ _ => hv)
  · rw [dif_neg hold, dif_neg (fun hold' => hold (hmem.mpr hold'))]
    exact List.rel_append h (List.Forall₂.cons ⟨hk, hv⟩ List.Forall₂.nil)

end Registry

/-! # Lists and results that correspond -/

theorem forall₂_mergeSort {α : Type} {R : α → α → Prop} {le : α → α → Bool}
    (hle : ∀ a a' b b', R a a' → R b b' → le a b = le a' b') {xs ys : List α}
    (h : List.Forall₂ R xs ys) : List.Forall₂ R (xs.mergeSort le) (ys.mergeSort le) := by
  rcases List.forall₂_iff_zip.mp h with ⟨hlength, hzip⟩
  have hfst : (xs.zip ys).map Prod.fst = xs := List.map_fst_zip (Nat.le_of_eq hlength)
  have hsnd : (xs.zip ys).map Prod.snd = ys := List.map_snd_zip (Nat.le_of_eq hlength.symm)
  -- The pairs are sorted once, by their first halves or by their second ones.
  have hsorted : ((xs.zip ys).mergeSort (fun a b => le a.1 b.1)).map Prod.fst =
      xs.mergeSort le := by
    rw [List.map_mergeSort (s := le) (fun _ _ _ _ => rfl), hfst]
  have hsorted' : ((xs.zip ys).mergeSort (fun a b => le a.1 b.1)).map Prod.snd =
      ys.mergeSort le := by
    rw [List.map_mergeSort (s := le), hsnd]
    intro a ha b hb
    exact hle _ _ _ _ (hzip ha) (hzip hb)
  rw [← hsorted, ← hsorted', List.forall₂_map_left_iff, List.forall₂_map_right_iff,
    List.forall₂_same]
  intro e he
  exact hzip (List.mem_mergeSort.mp he)

inductive ExceptRel {ε α β : Type} (R : α → β → Prop) : Except ε α → Except ε β → Prop where
  | ok {a : α} {b : β} (h : R a b) : ExceptRel R (.ok a) (.ok b)
  | error (e : ε) : ExceptRel R (.error e) (.error e)

theorem ExceptRel.refl {ε α : Type} (x : Except ε α) : ExceptRel Eq x x := by
  cases x with
  | ok a => exact ExceptRel.ok rfl
  | error e => exact ExceptRel.error e

theorem ExceptRel.eq {ε α : Type} {x y : Except ε α} (h : ExceptRel Eq x y) : x = y := by
  cases h with
  | ok h => rw [h]
  | error e => rfl

theorem ExceptRel.bind {ε α β γ δ : Type} {R : α → β → Prop} {Q : γ → δ → Prop}
    {x : Except ε α} {y : Except ε β} {f : α → Except ε γ} {g : β → Except ε δ}
    (h : ExceptRel R x y) (hf : ∀ a b, R a b → ExceptRel Q (f a) (g b)) :
    ExceptRel Q (x >>= f) (y >>= g) := by
  cases h with
  | ok h => exact hf _ _ h
  | error e => exact ExceptRel.error e

namespace Refresh

/-! # Secrets that stand for others -/

/-- Secrets in place of others.  Those with the same hash have the same hash in the other place. -/
structure Mirror where
  Secrets : Secret → Secret → Prop
  faithful : ∀ s s' t t', Secrets s s' → Secrets t t' → (s.hash = t.hash ↔ s'.hash = t'.hash)

namespace Mirror

inductive Hashes (m : Mirror) : String → String → Prop where
  | intro {s s' : Secret} (h : m.Secrets s s') : Hashes m s.hash s'.hash

inductive Records (m : Mirror) : Record → Record → Prop where
  | intro (r : Record) {hash : String} (h : m.Hashes r.tokenHash hash) :
      Records m r { r with tokenHash := hash }

structure Tables (m : Mirror) (t t' : Table) : Prop where
  records : Registry.Mirrored Eq m.Records t.records t'.records
  byHash : Registry.Mirrored m.Hashes Eq t.byHash t'.byHash
  families : t.families = t'.families

variable {m : Mirror}

theorem faithful_hashes (m : Mirror) : Registry.Faithful m.Hashes := by
  intro a a' b b' ha hb
  cases ha with
  | intro ha =>
      cases hb with
      | intro hb => exact m.faithful _ _ _ _ ha hb

theorem Records.revoke {r r' : Record} (h : m.Records r r') (now : Instant) (reason : Reason) :
    m.Records (r.revoke now reason) (r'.revoke now reason) := by
  cases h with
  | intro hhash =>
      unfold Record.revoke
      dsimp only
      split
      · exact Records.intro r hhash
      · exact Records.intro { r with
          state := .revoked, reason := some reason, revokedAt := some now } hhash

theorem Records.moveTo {r r' : Record} (h : m.Records r r') (now : Instant) (state : State)
    (successor : Option RecordId) :
    m.Records (r.moveTo now state successor) (r'.moveTo now state successor) := by
  cases h with
  | intro hhash => exact Records.intro (r.moveTo now state successor) hhash

theorem Records.belongsTo {r r' : Record} (h : m.Records r r') {s s' : Secret}
    (hs : m.Secrets s s') : r.belongsTo s = r'.belongsTo s' := by
  cases h with
  | intro hhash =>
      have hsame := m.faithful_hashes _ _ _ _ (Hashes.intro hs) hhash
      unfold Record.belongsTo
      rw [Bool.eq_iff_iff, beq_iff_eq, beq_iff_eq]
      exact hsame

namespace Tables

variable {t t' : Table} (h : m.Tables t t')
include h

/-! # Reading -/

theorem get? (id : RecordId) : Option.Rel m.Records (t.records.get? id) (t'.records.get? id) :=
  h.records.get? Registry.faithful_eq rfl

theorem findByHash {hash hash' : String} (hhash : m.Hashes hash hash') :
    Option.Rel m.Records (t.findByHash hash) (t'.findByHash hash') := by
  have hid := h.byHash.get? m.faithful_hashes hhash
  unfold Table.findByHash
  generalize t.byHash.get? hash = x at hid
  generalize t'.byHash.get? hash' = x' at hid
  cases hid with
  | none => exact Option.Rel.none
  | @some id _ heq =>
      cases heq
      exact h.get? id

theorem activeRecords (subject : SubjectId) :
    List.Forall₂ m.Records (t.activeRecords subject) (t'.activeRecords subject) := by
  unfold Table.activeRecords
  apply forall₂_mergeSort
  · intro a a' b b' ha hb
    cases ha
    cases hb
    rfl
  · apply List.rel_filter _ h.records.values
    intro r r' hr
    cases hr
    exact Iff.rfl

theorem isClosed (fam : FamilyId) : t.isClosed fam = t'.isClosed fam := by
  unfold Table.isClosed
  rw [h.families]

/-! # Adding -/

theorem push {r r' : Record} (hr : m.Records r r') :
    ExceptRel m.Tables (t.push r) (t'.push r') := by
  cases hr with
  | intro hhash =>
      unfold Table.push
      rw [← h.byHash.contains m.faithful_hashes hhash]
      split
      · exact ExceptRel.error _
      · apply ExceptRel.ok
        constructor
        · exact h.records.insert Registry.faithful_eq rfl (Records.intro r hhash)
        · exact h.byHash.insert m.faithful_hashes hhash rfl
        · exact h.families

theorem insert {r r' : Record} (hr : m.Records r r') :
    ExceptRel m.Tables (t.insert r) (t'.insert r') := by
  have hpush := h.push hr
  cases hr with
  | intro hhash =>
      unfold Table.insert
      rw [h.families]
      split
      · exact ExceptRel.error _
      · apply hpush.bind
        intro u u' hu
        apply ExceptRel.ok
        constructor
        · exact hu.records
        · exact hu.byHash
        · rw [hu.families]

theorem pushSuccessor (fam : FamilyId) {r r' : Record} (hr : m.Records r r') :
    ExceptRel m.Tables (t.pushSuccessor fam r) (t'.pushSuccessor fam r') := by
  have hpush := h.push hr
  cases hr with
  | intro hhash =>
      unfold Table.pushSuccessor
      split
      · exact ExceptRel.error _
      · apply hpush.bind
        intro u u' hu
        apply ExceptRel.ok
        constructor
        · exact hu.records
        · exact hu.byHash
        · rw [hu.families]

/-! # Changing -/

theorem transition (now : Instant) (id : RecordId) (expected state : State) {s s' : Record}
    (hs : m.Records s s') :
    ExceptRel (fun x x' => x.1 = x'.1 ∧ m.Tables x.2 x'.2)
      (t.transition now id expected state (some s))
      (t'.transition now id expected state (some s')) := by
  have hget := h.get? id
  unfold Table.transition
  generalize t.records.get? id = x at hget
  generalize t'.records.get? id = x' at hget
  cases hget with
  | none => exact ExceptRel.ok ⟨rfl, h⟩
  | @some r _ hr =>
      cases hr with
      | intro hhash =>
          dsimp only
          rw [h.isClosed]
          split
          · exact ExceptRel.ok ⟨rfl, h⟩
          · split
            · exact ExceptRel.ok ⟨rfl, h⟩
            · apply (h.pushSuccessor r.family hs).bind
              intro u u' hu
              refine ExceptRel.ok ⟨rfl, ?_, hu.byHash, hu.families⟩
              cases hs
              exact hu.records.modify Registry.faithful_eq rfl
                (fun _ _ hq => hq.moveTo now state _)

omit h in
theorem revokeRecords (now : Instant) (reason : Reason) (ids : List RecordId)
    {xs ys : Registry RecordId Record} (hxs : Registry.Mirrored Eq m.Records xs ys) :
    (Table.revokeRecords now reason ids xs).1 = (Table.revokeRecords now reason ids ys).1 ∧
      Registry.Mirrored Eq m.Records (Table.revokeRecords now reason ids xs).2
        (Table.revokeRecords now reason ids ys).2 := by
  induction ids generalizing xs ys with
  | nil => exact ⟨rfl, hxs⟩
  | cons id ids ih =>
      have hget := hxs.get? Registry.faithful_eq (rfl : id = id)
      have hchanges : (xs.get? id).any (fun r => r.state != .revoked) =
          (ys.get? id).any (fun r => r.state != .revoked) := by
        generalize xs.get? id = x at hget
        generalize ys.get? id = y at hget
        cases hget with
        | none => rfl
        | some hr =>
            cases hr
            rfl
      rcases ih (hxs.modify Registry.faithful_eq (rfl : id = id)
        (fun _ _ hr => hr.revoke now reason)) with ⟨hcount, hrest⟩
      simp only [Table.revokeRecords, hchanges, hcount, true_and]
      exact hrest

theorem revokeFamily (now : Instant) (fam : FamilyId) (reason : Reason) :
    (t.revokeFamily now fam reason).1 = (t'.revokeFamily now fam reason).1 ∧
      m.Tables (t.revokeFamily now fam reason).2 (t'.revokeFamily now fam reason).2 := by
  unfold Table.revokeFamily
  rw [h.families]
  cases t'.families.get? fam with
  | none => exact ⟨rfl, h⟩
  | some g =>
      rcases revokeRecords now reason g.records h.records with ⟨hcount, hrecords⟩
      exact ⟨hcount, hrecords, h.byHash, rfl⟩

theorem revokeSubjectFamilies (now : Instant) (subject : SubjectId) (reason : Reason) :
    (t.revokeSubjectFamilies now subject reason).1 =
        (t'.revokeSubjectFamilies now subject reason).1 ∧
      m.Tables (t.revokeSubjectFamilies now subject reason).2
        (t'.revokeSubjectFamilies now subject reason).2 := by
  have hlive : t.liveFamilies subject = t'.liveFamilies subject := by
    unfold Table.liveFamilies
    rw [h.families]
  unfold Table.revokeSubjectFamilies
  rw [hlive]
  refine ⟨rfl, ?_⟩
  generalize t'.liveFamilies subject = live
  clear hlive
  induction live generalizing t t' with
  | nil => exact h
  | cons fam live ih => exact ih (h.revokeFamily now fam reason).right

end Tables

end Mirror

end Refresh

end SessionAuth
