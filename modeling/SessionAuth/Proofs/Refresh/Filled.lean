import Mathlib.Data.List.Nodup
import SessionAuth.Proofs.Refresh.Operations

/-!
# Tables that calls have filled

The index of a table refuses a hash that is in use, and nothing refuses an identifier that is in
use.  Here is what holds of a table whatever it was filled with: a hash leads to the identifier it
came with, and to no other one.  A record is kept as long as no other one comes under its
identifier.
-/

namespace SessionAuth
namespace Refresh

open Time

/-! # Records that go on -/

/-- A later form of a record: it may be in another state, and all that it was issued with is the
same. -/
structure Record.Continues (q r : Record) : Prop where
  id : q.id = r.id
  subject : q.subject = r.subject
  family : q.family = r.family
  generation : q.generation = r.generation
  tokenHash : q.tokenHash = r.tokenHash
  expiresAt : q.expiresAt = r.expiresAt
  createdAt : q.createdAt = r.createdAt

namespace Record.Continues

theorem refl (r : Record) : r.Continues r :=
  ⟨rfl, rfl, rfl, rfl, rfl, rfl, rfl⟩

theorem moveTo {q r : Record} (h : q.Continues r) (now : Instant) (state : State)
    (successor : Option RecordId) : (q.moveTo now state successor).Continues r :=
  ⟨h.id, h.subject, h.family, h.generation, h.tokenHash, h.expiresAt, h.createdAt⟩

theorem revoke {q r : Record} (h : q.Continues r) (now : Instant) (reason : Reason) :
    (q.revoke now reason).Continues r := by
  unfold Record.revoke
  split
  · exact h
  · exact ⟨h.id, h.subject, h.family, h.generation, h.tokenHash, h.expiresAt, h.createdAt⟩

end Record.Continues

namespace Table

variable {t : Table}

/-- A record that can be found by its hash and in its family. -/
def Keeps (t : Table) (r : Record) : Prop :=
  ∃ q, t.findByHash r.tokenHash = some q ∧ q ∈ t.familyRecords r.family ∧ q.Continues r

/-- A table in which no family has two active records. -/
def SoleActive (t : Table) : Prop :=
  ∀ id id' q q', t.records.get? id = some q → t.records.get? id' = some q' →
    q.family = q'.family → q.state = .active → q'.state = .active → id = id'

def Holds (t : Table) (r : Record) : Prop :=
  ∃ q g, t.records.get? r.id = some q ∧ q.Continues r ∧ t.families.get? r.family = some g ∧
    r.id ∈ g.records

theorem mem_familyRecords {fam : FamilyId} {q : Record} :
    q ∈ t.familyRecords fam ↔
      ∃ g id, t.families.get? fam = some g ∧ id ∈ g.records ∧ t.records.get? id = some q := by
  unfold familyRecords
  cases t.families.get? fam with
  | none => simp
  | some g => simp

theorem exists_of_revokeFamily {now : Instant} {fam : FamilyId} {reason : Reason} {id : RecordId}
    {q : Record} (h : (t.revokeFamily now fam reason).2.records.get? id = some q) :
    ∃ r, t.records.get? id = some r ∧ q.Continues r ∧ (q.state ≠ .revoked → q = r) := by
  rcases get?_records_revokeFamily_cases (t := t) now fam reason id with hsame | hmap
  · rw [hsame] at h
    exact ⟨q, h, .refl q, fun _ => rfl⟩
  · rw [hmap] at h
    rcases Option.map_eq_some_iff.mp h with ⟨r, hr, rfl⟩
    exact ⟨r, hr, (Record.Continues.refl r).revoke now reason, fun hne => absurd (by simp) hne⟩

theorem exists_families_revokeFamily (now : Instant) (fam : FamilyId) (reason : Reason)
    {k : FamilyId} {g : Family} (hg : t.families.get? k = some g) :
    ∃ g', (t.revokeFamily now fam reason).2.families.get? k = some g' ∧
      g'.records = g.records := by
  rw [get?_families_revokeFamily, hg]
  split
  · exact ⟨_, rfl, rfl⟩
  · exact ⟨g, rfl, rfl⟩

theorem eq_or_of_withFamily {r q : Record} {id : RecordId}
    (h : (t.withFamily r).records.get? id = some q) :
    (id = r.id ∧ q = r) ∨ (id ≠ r.id ∧ t.records.get? id = some q) := by
  rw [get?_records_withFamily] at h
  split at h
  case isTrue hid => exact Or.inl ⟨hid, (Option.some.inj h).symm⟩
  case isFalse hid => exact Or.inr ⟨hid, h⟩

theorem exists_of_moved {now : Instant} {id k : RecordId} {state : State}
    {successor : Option Record} {q : Record}
    (h : (t.moved now id state successor).records.get? k = some q) :
    ∃ r, ((successor = some r ∧ r.id = k) ∨
        ((∀ s, successor = some s → s.id ≠ k) ∧ t.records.get? k = some r)) ∧
      q.Continues r ∧ (k ≠ id → q = r) ∧ (k = id → q.state = state) := by
  rw [get?_records_moved] at h
  rcases Option.map_eq_some_iff.mp h with ⟨r, hr, rfl⟩
  refine ⟨r, ?_, ?_, fun hk => if_neg hk, fun hk => by rw [if_pos hk]; rfl⟩
  case refine_2 =>
      split
      · exact (Record.Continues.refl r).moveTo now state (successor.map Record.id)
      · exact .refl r
  rcases Option.or_eq_some_iff.mp hr with hnew | ⟨hnone, hold⟩
  · rcases Option.filter_eq_some_iff.mp hnew with ⟨hs, hid⟩
    exact Or.inl ⟨hs, of_decide_eq_true hid⟩
  · refine Or.inr ⟨?_, hold⟩
    intro s hs hid
    rw [hs, Option.filter_some, if_pos (decide_eq_true hid)] at hnone
    cases hnone

/-! # Tables that calls have filled -/

/-- What holds of a table that was filled by calls, and of the records that were accepted on the
way. -/
structure Filled (records : List Record) (t : Table) : Prop where
  keyed : ∀ id q, t.records.get? id = some q → q.id = id
  hashed : ∀ id q, t.records.get? id = some q → t.byHash.get? q.tokenHash = some id
  known : ∀ id q, t.records.get? id = some q → ∃ g, t.families.get? q.family = some g
  entered : ∀ r ∈ records, t.byHash.get? r.tokenHash = some r.id
  nodup : (records.map Record.tokenHash).Nodup

namespace Filled

variable {records : List Record}

theorem empty : Filled [] Table.empty where
  keyed := by
    intro id q h
    cases h
  hashed := by
    intro id q h
    cases h
  known := by
    intro id q h
    cases h
  entered := by
    intro r hr
    cases hr
  nodup := List.nodup_nil

theorem nodup_append (h : Filled records t) {r : Record}
    (hhash : t.byHash.get? r.tokenHash = none) :
    ((records ++ [r]).map Record.tokenHash).Nodup := by
  rw [List.map_append]
  refine List.nodup_append.mpr ⟨h.nodup, by simp, ?_⟩
  intro a ha b hb hsame
  rcases List.mem_map.mp ha with ⟨q, hq, rfl⟩
  rw [List.map_singleton, List.mem_singleton] at hb
  rw [hb] at hsame
  have hentered := h.entered q hq
  rw [hsame, hhash] at hentered
  cases hentered

theorem added (h : Filled records t) {r : Record}
    (hhash : t.byHash.get? r.tokenHash = none) : Filled (records ++ [r]) (t.withFamily r) := by
  have hold : ∀ hash id, t.byHash.get? hash = some id →
      (t.withFamily r).byHash.get? hash = some id := by
    intro hash id hstored
    rw [get?_byHash_withFamily, if_neg]
    · exact hstored
    · intro hsame
      rw [hsame, hhash] at hstored
      cases hstored
  have hnew : (t.withFamily r).byHash.get? r.tokenHash = some r.id := by
    rw [get?_byHash_withFamily, if_pos rfl]
  constructor
  case keyed =>
      intro id q hq
      rcases eq_or_of_withFamily hq with ⟨hid, rfl⟩ | ⟨_, hp⟩
      · exact hid.symm
      · exact h.keyed id q hp
  case hashed =>
      intro id q hq
      rcases eq_or_of_withFamily hq with ⟨rfl, rfl⟩ | ⟨_, hp⟩
      · exact hnew
      · exact hold _ _ (h.hashed id q hp)
  case known =>
      intro id q hq
      rw [get?_families_withFamily]
      split
      case isTrue => exact ⟨_, rfl⟩
      case isFalse hother =>
          rcases eq_or_of_withFamily hq with ⟨_, rfl⟩ | ⟨_, hp⟩
          · exact absurd rfl hother
          · exact h.known id q hp
  case entered =>
      intro q hq
      rcases List.mem_append.mp hq with hmem | hlast
      · exact hold _ _ (h.entered q hmem)
      · rw [List.mem_singleton.mp hlast]
        exact hnew
  case nodup => exact h.nodup_append hhash

theorem moved (h : Filled records t) {now : Instant} {id : RecordId} {state : State}
    {successor : Option Record} {r : Record} (hopen : t.isClosed r.family = false)
    (hsuccessor : ∀ s, successor = some s →
      s.family = r.family ∧ t.byHash.get? s.tokenHash = none) :
    Filled (records ++ successor.toList) (t.moved now id state successor) := by
  have hold : ∀ hash k, t.byHash.get? hash = some k →
      (t.moved now id state successor).byHash.get? hash = some k := by
    intro hash k hstored
    rw [get?_byHash_moved]
    cases successor with
    | none => exact hstored
    | some s =>
        rw [Option.filter_some, if_neg]
        · exact hstored
        · intro hsame
          rw [← of_decide_eq_true hsame, (hsuccessor s rfl).right] at hstored
          cases hstored
  have hnew : ∀ s, successor = some s →
      (t.moved now id state successor).byHash.get? s.tokenHash = some s.id := by
    intro s hs
    rw [get?_byHash_moved, hs]
    simp [Option.filter_some]
  have hknown : ∀ k g, t.families.get? k = some g →
      ∃ g', (t.moved now id state successor).families.get? k = some g' := by
    intro k g hg
    rw [get?_families_moved, hg]
    exact ⟨_, rfl⟩
  constructor
  case keyed =>
      intro k q hq
      rcases exists_of_moved hq with ⟨p, hp, hqp, _⟩
      rw [hqp.id]
      rcases hp with ⟨_, hid⟩ | ⟨_, hp⟩
      · exact hid
      · exact h.keyed k p hp
  case hashed =>
      intro k q hq
      rcases exists_of_moved hq with ⟨p, hp, hqp, _⟩
      rw [hqp.tokenHash]
      rcases hp with ⟨hs, rfl⟩ | ⟨_, hp⟩
      · exact hnew p hs
      · exact hold _ _ (h.hashed k p hp)
  case known =>
      intro k q hq
      rcases exists_of_moved hq with ⟨p, hp, hqp, _⟩
      rw [hqp.family]
      rcases hp with ⟨hs, _⟩ | ⟨_, hp⟩
      · rw [(hsuccessor p hs).left]
        rcases isClosed_eq_false.mp hopen with ⟨g, hg, _⟩
        exact hknown _ g hg
      · rcases h.known k p hp with ⟨g, hg⟩
        exact hknown _ g hg
  case entered =>
      intro q hq
      rcases List.mem_append.mp hq with hmem | hlast
      · exact hold _ _ (h.entered q hmem)
      · exact hnew q (by simpa using hlast)
  case nodup =>
      cases successor with
      | none => simpa using h.nodup
      | some s => exact h.nodup_append (hsuccessor s rfl).right

theorem withdrawn (h : Filled records t) (now : Instant) (fam : FamilyId) (reason : Reason) :
    Filled records (t.revokeFamily now fam reason).2 := by
  constructor
  case keyed =>
      intro id q hq
      rcases exists_of_revokeFamily hq with ⟨r, hr, hqr, _⟩
      rw [hqr.id]
      exact h.keyed id r hr
  case hashed =>
      intro id q hq
      rcases exists_of_revokeFamily hq with ⟨r, hr, hqr, _⟩
      rw [hqr.tokenHash, byHash_revokeFamily]
      exact h.hashed id r hr
  case known =>
      intro id q hq
      rcases exists_of_revokeFamily hq with ⟨r, hr, hqr, _⟩
      rw [hqr.family]
      rcases h.known id r hr with ⟨g, hg⟩
      rcases exists_families_revokeFamily now fam reason hg with ⟨g', hg', _⟩
      exact ⟨g', hg'⟩
  case entered =>
      intro r hr
      rw [byHash_revokeFamily]
      exact h.entered r hr
  case nodup => exact h.nodup

theorem keeps_iff (h : Filled records t) {r : Record} (hr : r ∈ records) :
    t.Keeps r ↔ t.Holds r := by
  constructor
  · intro hkeeps
    rcases hkeeps with ⟨q, hfound, hmem, hqr⟩
    rcases findByHash_eq_some.mp hfound with ⟨id, hid, hq⟩
    rw [h.entered r hr] at hid
    cases hid
    rcases mem_familyRecords.mp hmem with ⟨g, k, hg, hk, hkq⟩
    have hkey : k = r.id := (h.keyed k q hkq).symm.trans hqr.id
    rw [hkey] at hk
    exact ⟨q, g, hq, hqr, hg, hk⟩
  · intro hx
    rcases hx with ⟨q, g, hq, hqr, hg, hmem⟩
    exact ⟨q, findByHash_eq_some.mpr ⟨_, h.entered r hr, hq⟩,
      mem_familyRecords.mpr ⟨g, _, hg, hmem, hq⟩, hqr⟩

theorem nodup_id (h : Filled records t) (hkeeps : ∀ r ∈ records, t.Keeps r) :
    (records.map Record.id).Nodup := by
  refine List.Nodup.map_on ?_ (List.Nodup.of_map _ h.nodup)
  intro r hr s hs hid
  rcases (h.keeps_iff hr).mp (hkeeps r hr) with ⟨q, _, hq, hqr, _, _⟩
  rcases (h.keeps_iff hs).mp (hkeeps s hs) with ⟨p, _, hp, hps, _, _⟩
  rw [← hid, hq] at hp
  cases hp
  exact List.inj_on_of_nodup_map h.nodup hr hs (hqr.tokenHash.symm.trans hps.tokenHash)

end Filled

/-! # Records that stay -/

namespace Holds

variable {r : Record}

theorem new (t : Table) (r : Record) : (t.withFamily r).Holds r := by
  refine ⟨r, ⟨r.subject, [r.id], none⟩, ?_, .refl r, ?_, by simp⟩
  · rw [get?_records_withFamily, if_pos rfl]
  · rw [get?_families_withFamily, if_pos rfl]

theorem added (h : t.Holds r) {s : Record} (hid : r.id ≠ s.id)
    (hfamily : t.families.get? s.family = none) : (t.withFamily s).Holds r := by
  rcases h with ⟨q, g, hq, hqr, hg, hmem⟩
  refine ⟨q, g, ?_, hqr, ?_, hmem⟩
  · rw [get?_records_withFamily, if_neg hid]
    exact hq
  · rw [get?_families_withFamily, if_neg]
    · exact hg
    · intro hsame
      rw [hsame, hfamily] at hg
      cases hg

theorem successor {fam : FamilyId} {g : Family} (hg : t.families.get? fam = some g) {s : Record}
    (hfamily : s.family = fam) (now : Instant) (id : RecordId) (state : State) :
    (t.moved now id state (some s)).Holds s := by
  refine ⟨if s.id = id then s.moveTo now state (some s.id) else s, g.extend s.id, ?_, ?_, ?_, ?_⟩
  · rw [get?_records_moved]
    simp [Option.filter_some]
  · split
    · exact (Record.Continues.refl s).moveTo now state (some s.id)
    · exact .refl s
  · rw [get?_families_moved, hfamily, hg]
    simp [Option.filter_some, hfamily, Family.extend]
  · simp [Family.extend]

theorem moved (h : t.Holds r) {successor : Option Record}
    (hid : ∀ s, successor = some s → s.id ≠ r.id) (now : Instant) (id : RecordId)
    (state : State) : (t.moved now id state successor).Holds r := by
  rcases h with ⟨q, g, hq, hqr, hg, hmem⟩
  have hnone : successor.filter (fun s => decide (s.id = r.id)) = none := by
    rw [Option.filter_eq_none_iff]
    intro s hs
    simpa using hid s hs
  have hrecord := get?_records_moved t now id state successor r.id
  have hfamily := get?_families_moved t now id state successor r.family
  rw [hnone, hq] at hrecord
  rw [hg] at hfamily
  refine ⟨_, _, hrecord, ?_, hfamily, List.mem_append_left _ hmem⟩
  split
  · exact hqr.moveTo now state (successor.map Record.id)
  · exact hqr

theorem withdrawn (h : t.Holds r) (now : Instant) (fam : FamilyId) (reason : Reason) :
    (t.revokeFamily now fam reason).2.Holds r := by
  rcases h with ⟨q, g, hq, hqr, hg, hmem⟩
  rcases exists_families_revokeFamily now fam reason hg with ⟨g', hg', hrecords⟩
  rw [← hrecords] at hmem
  rcases get?_records_revokeFamily_cases (t := t) now fam reason r.id with hsame | hmap
  · exact ⟨q, g', hsame.trans hq, hqr, hg', hmem⟩
  · rw [hq] at hmap
    exact ⟨_, g', hmap, hqr.revoke now reason, hg', hmem⟩

end Holds

/-! # Active records -/

/-- The records that a move makes active: the one that it moves, and its successor. -/
def Activates (id : RecordId) (state : State) (successor : Option Record) (k : RecordId) : Prop :=
  (k = id ∧ state = .active) ∨ ∃ s, successor = some s ∧ s.id = k ∧ s.state = .active

namespace Activates

variable {id k k' : RecordId} {expected state : State} {successor : Option Record}
  (hcount : (state :: (successor.map Record.state).toList).count .active ≤
    [expected].count .active)

include hcount

theorem expected_eq (h : Activates id state successor k) : expected = .active := by
  by_contra hexpected
  rw [List.count_singleton, if_neg (by simpa using hexpected), Nat.le_zero,
    List.count_eq_zero] at hcount
  apply hcount
  rcases h with ⟨_, hactive⟩ | ⟨s, hs, _, hactive⟩
  · simp [hactive]
  · simp [hs, hactive]

theorem unique (h : Activates id state successor k) (h' : Activates id state successor k') :
    k = k' := by
  have hnot : ∀ s, successor = some s → s.state = .active → state ≠ .active := by
    intro s hs hnext hactive
    have htwo := Nat.le_trans hcount List.count_le_length
    simp [hs, hnext, hactive] at htwo
  rcases h with ⟨hid, hactive⟩ | ⟨s, hs, hid, hnext⟩
  · rcases h' with ⟨hid', _⟩ | ⟨s', hs', _, hnext'⟩
    · exact hid.trans hid'.symm
    · exact absurd hactive (hnot s' hs' hnext')
  · rcases h' with ⟨_, hactive'⟩ | ⟨s', hs', hid', _⟩
    · exact absurd hactive' (hnot s hs hnext)
    · rw [hs] at hs'
      cases hs'
      exact hid.symm.trans hid'

end Activates

namespace SoleActive

variable (h : t.SoleActive)
include h

theorem added {records : List Record} (hfilled : Filled records t) {r : Record}
    (hfamily : t.families.get? r.family = none) : (t.withFamily r).SoleActive := by
  have hother : ∀ k p, t.records.get? k = some p → r.family ≠ p.family := by
    intro k p hp hsame
    rcases hfilled.known k p hp with ⟨g, hg⟩
    rw [← hsame, hfamily] at hg
    cases hg
  intro id id' q q' hq hq' hsame hactive hactive'
  rcases eq_or_of_withFamily hq with ⟨hid, rfl⟩ | ⟨_, hold⟩
  · rcases eq_or_of_withFamily hq' with ⟨hid', _⟩ | ⟨_, hold'⟩
    · exact hid.trans hid'.symm
    · exact absurd hsame (hother id' q' hold')
  · rcases eq_or_of_withFamily hq' with ⟨_, rfl⟩ | ⟨_, hold'⟩
    · exact absurd hsame.symm (hother id q hold)
    · exact h id id' q q' hold hold' hsame hactive hactive'

theorem withdrawn (now : Instant) (fam : FamilyId) (reason : Reason) :
    (t.revokeFamily now fam reason).2.SoleActive := by
  have hback : ∀ id q, (t.revokeFamily now fam reason).2.records.get? id = some q →
      q.state = .active → t.records.get? id = some q := by
    intro id q hq hactive
    rcases exists_of_revokeFamily hq with ⟨r, hr, _, hsame⟩
    rw [hsame (by simp [hactive])]
    exact hr
  intro id id' q q' hq hq' hsame hactive hactive'
  exact h id id' q q' (hback id q hq hactive) (hback id' q' hq' hactive') hsame hactive hactive'

omit h in
theorem activates_or {now : Instant} {id k : RecordId} {state : State} {successor : Option Record}
    {r q : Record} (hr : t.records.get? id = some r)
    (hfamily : ∀ s, successor = some s → s.family = r.family)
    (hq : (t.moved now id state successor).records.get? k = some q) (hactive : q.state = .active) :
    (Activates id state successor k ∧ q.family = r.family) ∨
      (k ≠ id ∧ t.records.get? k = some q) := by
  rcases exists_of_moved hq with ⟨p, hp, hqp, hsame, hself⟩
  by_cases hk : k = id
  · refine Or.inl ⟨Or.inl ⟨hk, (hself hk).symm.trans hactive⟩, ?_⟩
    rw [hqp.family]
    rcases hp with ⟨hs, _⟩ | ⟨_, hp⟩
    · exact hfamily p hs
    · rw [hk, hr] at hp
      cases hp
      rfl
  · rw [hsame hk] at hactive ⊢
    rcases hp with ⟨hs, hid⟩ | ⟨_, hp⟩
    · exact Or.inl ⟨Or.inr ⟨p, hs, hid, hactive⟩, hfamily p hs⟩
    · exact Or.inr ⟨hk, hp⟩

theorem moved {now : Instant} {id : RecordId} {state : State} {successor : Option Record}
    {r : Record} (hr : t.records.get? id = some r)
    (hfamily : ∀ s, successor = some s → s.family = r.family)
    (hcount : (state :: (successor.map Record.state).toList).count .active ≤
      [r.state].count .active) :
    (t.moved now id state successor).SoleActive := by
  have hapart : ∀ k k' (q q' : Record), Activates id state successor k → q.family = r.family →
      k' ≠ id → t.records.get? k' = some q' → q'.state = .active → q.family ≠ q'.family := by
    intro k k' q q' hmade hq hk' hq' hactive hsame
    exact hk' (h k' id q' r hq' hr (hsame.symm.trans hq) hactive (hmade.expected_eq hcount))
  intro k k' q q' hq hq' hsame hactive hactive'
  rcases activates_or hr hfamily hq hactive with ⟨hmade, hfam⟩ | ⟨hk, hold⟩
  · rcases activates_or hr hfamily hq' hactive' with ⟨hmade', _⟩ | ⟨hk', hold'⟩
    · exact hmade.unique hcount hmade'
    · exact absurd hsame (hapart k k' q q' hmade hfam hk' hold' hactive')
  · rcases activates_or hr hfamily hq' hactive' with ⟨hmade', hfam'⟩ | ⟨hk', hold'⟩
    · exact absurd hsame.symm (hapart k' k q' q hmade' hfam' hk hold hactive)
    · exact h k k' q q' hold hold' hsame hactive hactive'

end SoleActive

end Table

end Refresh

end SessionAuth
