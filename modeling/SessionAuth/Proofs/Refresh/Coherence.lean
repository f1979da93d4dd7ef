import SessionAuth.Proofs.Refresh.Operations

/-!
# Coherent tables

The index, the records and the families of a table agree with each other.  A record says in which
family it stands, and its place there says everything else: its generation, its state and its
successor.  Every change of a table keeps this up.
-/

namespace SessionAuth
namespace Refresh

open Time

namespace Family

/-- The state of the record at a place of a family.  All records but the last have been exchanged,
and all records of a withdrawn family are withdrawn. -/
def stateAt (f : Family) (k : Nat) : State :=
  if f.isRevoked then .revoked
  else if k + 1 < f.records.length then .consumed
  else .active

theorem stateAt_ne_revoked {f : Family} (h : f.isRevoked = false) (k : Nat) :
    f.stateAt k ≠ .revoked := by
  unfold stateAt
  rw [h]
  split
  · contradiction
  · split <;> simp

theorem stateAt_eq_active {f : Family} {k : Nat} :
    f.stateAt k = .active ↔ f.isRevoked = false ∧ f.records.length ≤ k + 1 := by
  unfold stateAt
  cases f.isRevoked with
  | true => simp
  | false =>
      by_cases hk : k + 1 < f.records.length
      · simp [hk]
      · simp [hk, Nat.le_of_not_lt hk]

end Family

/-- A record that says of itself what its place in a family says. -/
structure Record.Fills (r : Record) (fam : FamilyId) (f : Family) (k : Nat) : Prop where
  family : r.family = fam
  subject : r.subject = f.subject
  generation : r.generation = k
  replacedBy : r.replacedBy = f.records[k + 1]?
  state : r.state = f.stateAt k
  consumedAt : r.consumedAt.isSome = decide (k + 1 < f.records.length)
  reason : r.reason.isSome = f.isRevoked
  revokedAt : r.revokedAt.isSome = f.isRevoked

namespace Table

/-- A table whose index has the hash of each record and nothing else. -/
def Indexed (t : Table) : Prop :=
  ∀ hash id, t.byHash.get? hash = some id ↔
    ∃ r, t.records.get? id = some r ∧ r.tokenHash = hash

/-- A table whose records are kept under their own identifiers and found by their hashes, and stand
in the lists of their families. -/
structure Linked (t : Table) : Prop where
  indexed : t.Indexed
  keyed : ∀ id r, t.records.get? id = some r → r.id = id
  listed : ∀ id r, t.records.get? id = some r →
    ∃ f, t.families.get? r.family = some f ∧ id ∈ f.records

/-- A table whose index, records and families agree. -/
structure Coherent (t : Table) : Prop where
  indexed : t.Indexed
  keyed : ∀ id r, t.records.get? id = some r → r.id = id
  listed : ∀ id r, t.records.get? id = some r →
    ∃ f, t.families.get? r.family = some f ∧ id ∈ f.records
  nodup : ∀ fam f, t.families.get? fam = some f → f.records.Nodup
  nonempty : ∀ fam f, t.families.get? fam = some f → f.records ≠ []
  filled : ∀ fam f k id, t.families.get? fam = some f → f.records[k]? = some id →
    ∃ r, t.records.get? id = some r ∧ r.Fills fam f k

theorem linked_empty : empty.Linked where
  indexed := by
    intro hash id
    constructor
    · intro h
      cases h
    · intro hx
      rcases hx with ⟨r, h, _⟩
      cases h
  keyed := by
    intro id r h
    cases h
  listed := by
    intro id r h
    cases h

theorem coherent_empty : empty.Coherent where
  indexed := linked_empty.indexed
  keyed := linked_empty.keyed
  listed := linked_empty.listed
  nodup := by
    intro fam f h
    cases h
  nonempty := by
    intro fam f h
    cases h
  filled := by
    intro fam f k id h
    cases h

/-! # Places -/

namespace Coherent

variable {t : Table} (ht : t.Coherent)
include ht

theorem linked : t.Linked :=
  ⟨ht.indexed, ht.keyed, ht.listed⟩

/-- Every record has a place in its family. -/
theorem exists_place {id : RecordId} {r : Record} (h : t.records.get? id = some r) :
    ∃ f k, t.families.get? r.family = some f ∧ f.records[k]? = some id ∧
      r.Fills r.family f k := by
  rcases ht.listed id r h with ⟨f, hf, hmem⟩
  rcases List.mem_iff_getElem?.mp hmem with ⟨k, hk⟩
  rcases ht.filled r.family f k id hf hk with ⟨r', hr', hfills⟩
  rw [h] at hr'
  cases hr'
  exact ⟨f, k, hf, hk, hfills⟩

theorem family_of_mem {fam : FamilyId} {f : Family} {id : RecordId} {r : Record}
    (hf : t.families.get? fam = some f) (hmem : id ∈ f.records)
    (hr : t.records.get? id = some r) : r.family = fam := by
  rcases List.mem_iff_getElem?.mp hmem with ⟨k, hk⟩
  rcases ht.filled fam f k id hf hk with ⟨r', hr', hfills⟩
  rw [hr] at hr'
  cases hr'
  exact hfills.family

theorem subject_eq {fam : FamilyId} {f : Family} {id : RecordId} {r : Record}
    (hf : t.families.get? fam = some f) (hr : t.records.get? id = some r)
    (hfamily : r.family = fam) : r.subject = f.subject := by
  rcases ht.exists_place hr with ⟨g, k, hg, _, hfills⟩
  rw [hfamily, hf] at hg
  cases hg
  exact hfills.subject

/-- A record is withdrawn exactly if its family is. -/
theorem revoked_iff {fam : FamilyId} {f : Family} {id : RecordId} {r : Record}
    (hf : t.families.get? fam = some f) (hr : t.records.get? id = some r)
    (hfamily : r.family = fam) : r.state = .revoked ↔ f.isRevoked = true := by
  rcases ht.exists_place hr with ⟨g, k, hg, _, hfills⟩
  rw [hfamily, hf] at hg
  cases hg
  rw [hfills.state]
  constructor
  · intro hstate
    cases hrevoked : f.isRevoked with
    | true => rfl
    | false => exact absurd hstate (Family.stateAt_ne_revoked hrevoked k)
  · intro hrevoked
    unfold Family.stateAt
    rw [if_pos hrevoked]

/-- A family is in force exactly if one of its records is active. -/
theorem exists_active_iff {fam : FamilyId} {f : Family} (hf : t.families.get? fam = some f) :
    (∃ id r, t.records.get? id = some r ∧ r.family = fam ∧ r.state = .active) ↔
      f.isRevoked = false := by
  constructor
  · intro h
    rcases h with ⟨id, r, hr, hfamily, hstate⟩
    cases hrevoked : f.isRevoked with
    | false => rfl
    | true =>
        rw [(ht.revoked_iff hf hr hfamily).mpr hrevoked] at hstate
        cases hstate
  · intro hrevoked
    have hlength := List.length_pos_iff.mpr (ht.nonempty fam f hf)
    have hlast : f.records[f.records.length - 1]? =
        some (f.records.get ⟨f.records.length - 1, Nat.sub_lt hlength Nat.one_pos⟩) :=
      List.getElem?_eq_getElem _
    rcases ht.filled fam f _ _ hf hlast with ⟨r, hr, hfills⟩
    refine ⟨_, r, hr, hfills.family, ?_⟩
    rw [hfills.state]
    exact Family.stateAt_eq_active.mpr ⟨hrevoked, by omega⟩

theorem findByHash_of_get? {id : RecordId} {r : Record} (h : t.records.get? id = some r) :
    t.findByHash r.tokenHash = some r :=
  findByHash_eq_some.mpr ⟨id, (ht.indexed r.tokenHash id).mpr ⟨r, h, rfl⟩, h⟩

theorem get?_of_findByHash {hash : String} {r : Record} (h : t.findByHash hash = some r) :
    t.records.get? r.id = some r ∧ r.tokenHash = hash := by
  rcases findByHash_eq_some.mp h with ⟨id, hid, hr⟩
  rcases (ht.indexed hash id).mp hid with ⟨r', hr', hhash⟩
  rw [hr] at hr'
  cases hr'
  rw [ht.keyed id r hr]
  exact ⟨hr, hhash⟩

end Coherent

/-! # New families -/

theorem Indexed.store {t : Table} {r : Record} (ht : t.Indexed)
    (hhash : t.byHash.get? r.tokenHash = none) (hid : t.records.get? r.id = none) :
    (t.store r).Indexed := by
  intro hash id
  unfold Table.store
  rw [Registry.get?_insert, Registry.get?_insert]
  by_cases hk : id = r.id
  · rw [if_pos hk]
    by_cases hh : hash = r.tokenHash
    · simp [hh, hk]
    · have hold : t.byHash.get? hash ≠ some id := by
        intro h
        rcases (ht hash id).mp h with ⟨q, hq, _⟩
        rw [hk, hid] at hq
        cases hq
      simp [hh, hold, Ne.symm hh]
  · rw [if_neg hk]
    by_cases hh : hash = r.tokenHash
    · have hold : ¬ ∃ q, t.records.get? id = some q ∧ q.tokenHash = r.tokenHash := by
        intro h
        rw [(ht r.tokenHash id).mpr h] at hhash
        cases hhash
      simp [hh, hold, Ne.symm hk]
    · rw [if_neg hh]
      exact ht hash id

theorem Linked.added {t : Table} {r : Record} (ht : t.Linked)
    (hfamily : t.families.get? r.family = none) (hhash : t.byHash.get? r.tokenHash = none)
    (hid : t.records.get? r.id = none) : (t.withFamily r).Linked where
  indexed := ht.indexed.store hhash hid
  keyed := by
    intro id q h
    rw [get?_records_withFamily] at h
    by_cases hk : id = r.id
    · rw [if_pos hk] at h
      cases h
      exact hk.symm
    · rw [if_neg hk] at h
      exact ht.keyed id q h
  listed := by
    intro id q h
    rw [get?_records_withFamily] at h
    rw [get?_families_withFamily]
    by_cases hk : id = r.id
    · rw [if_pos hk] at h
      cases h
      exact ⟨_, if_pos rfl, by simp [hk]⟩
    · rw [if_neg hk] at h
      rcases ht.listed id q h with ⟨f, hf, hmem⟩
      have hne : q.family ≠ r.family := by
        intro heq
        rw [heq, hfamily] at hf
        cases hf
      exact ⟨f, by rw [if_neg hne]; exact hf, hmem⟩

theorem Coherent.added {t : Table} {r : Record} (ht : t.Coherent)
    (hfamily : t.families.get? r.family = none) (hhash : t.byHash.get? r.tokenHash = none)
    (hid : t.records.get? r.id = none) (hnew : r.Unused) (hfirst : r.generation = 0) :
    (t.withFamily r).Coherent where
  indexed := (ht.linked.added hfamily hhash hid).indexed
  keyed := (ht.linked.added hfamily hhash hid).keyed
  listed := (ht.linked.added hfamily hhash hid).listed
  nodup := by
    intro fam f h
    rw [get?_families_withFamily] at h
    split at h
    · cases h
      simp
    · exact ht.nodup fam f h
  nonempty := by
    intro fam f h
    rw [get?_families_withFamily] at h
    split at h
    · cases h
      simp
    · exact ht.nonempty fam f h
  filled := by
    intro fam f k id hf hk
    rw [get?_families_withFamily] at hf
    rw [get?_records_withFamily]
    split at hf
    case isTrue hfam =>
        cases hf
        rcases List.getElem?_eq_some_iff.mp hk with ⟨hlt, heq⟩
        obtain rfl : k = 0 := by simpa using hlt
        refine ⟨r, if_pos heq.symm, ?_⟩
        exact {
          family := hfam.symm
          subject := rfl
          generation := hfirst
          replacedBy := hnew.replacedBy
          state := hnew.state
          consumedAt := by rw [hnew.consumedAt]; rfl
          reason := by rw [hnew.reason]; rfl
          revokedAt := by rw [hnew.revokedAt]; rfl }
    case isFalse hfam =>
        rcases ht.filled fam f k id hf hk with ⟨q, hq, hfills⟩
        have hne : id ≠ r.id := by
          intro hsame
          subst hsame
          rw [hid] at hq
          cases hq
        exact ⟨q, by rw [if_neg hne]; exact hq, hfills⟩

/-!
# Exchanges

An exchange takes place at the last record of a family in force.  The successor goes to the next
place, and the records before the last one stay as they are.
-/

theorem Coherent.last_of_active {t : Table} (ht : t.Coherent) {id : RecordId} {r : Record}
    (hrecord : t.records.get? id = some r) (hstate : r.state = .active) :
    ∃ f k, t.families.get? r.family = some f ∧ f.records[k]? = some id ∧
      r.Fills r.family f k ∧ f.isRevoked = false ∧ f.records.length = k + 1 := by
  rcases ht.exists_place hrecord with ⟨f, k, hf, hk, hfills⟩
  have hactive := hfills.state.symm.trans hstate
  rcases Family.stateAt_eq_active.mp hactive with ⟨hopen, hlength⟩
  rcases List.getElem?_eq_some_iff.mp hk with ⟨hlt, _⟩
  exact ⟨f, k, hf, hk, hfills, hopen, by omega⟩

end Table

namespace Family

variable {f : Family} {r s : Record} {fam : FamilyId} {k : Nat}

theorem fills_extend_of_lt {q : Record} (hfills : q.Fills fam f k) (id : RecordId)
    (hk : k + 1 < f.records.length) : q.Fills fam (f.extend id) k where
  family := hfills.family
  subject := hfills.subject
  generation := hfills.generation
  replacedBy := by
    rw [hfills.replacedBy]
    exact (List.getElem?_append_left hk).symm
  state := by
    rw [hfills.state]
    have hk' : k + 1 < (f.extend id).records.length := by
      simpa [extend] using Nat.lt_succ_of_lt hk
    unfold stateAt
    rw [if_pos hk, if_pos hk']
    rfl
  consumedAt := by
    rw [hfills.consumedAt]
    simp [extend, hk, Nat.lt_succ_of_lt hk]
  reason := hfills.reason
  revokedAt := hfills.revokedAt

theorem fills_extend_moveTo (hfills : r.Fills fam f k) (hopen : f.isRevoked = false)
    (hlength : f.records.length = k + 1) (now : Instant) (id : RecordId) :
    (r.moveTo now .consumed (some id)).Fills fam (f.extend id) k where
  family := hfills.family
  subject := hfills.subject
  generation := hfills.generation
  replacedBy := by
    simp [Record.moveTo, extend, ← hlength]
  state := by
    have hrevoked : (f.extend id).isRevoked = false := hopen
    unfold stateAt
    rw [hrevoked]
    simp [Record.moveTo, extend, hlength]
  consumedAt := by
    simp [Record.moveTo, extend, hlength]
  reason := hfills.reason
  revokedAt := hfills.revokedAt

theorem fills_extend_successor (hfills : r.Fills fam f k) (hopen : f.isRevoked = false)
    (hlength : f.records.length = k + 1) (hnew : s.Succeeds r) :
    s.Fills fam (f.extend s.id) (k + 1) where
  family := hnew.family.trans hfills.family
  subject := hnew.subject.trans hfills.subject
  generation := by
    rw [hnew.generation, hfills.generation]
    rfl
  replacedBy := by
    rw [hnew.replacedBy]
    simp [extend, hlength]
  state := by
    have hrevoked : (f.extend s.id).isRevoked = false := hopen
    rw [hnew.state]
    unfold stateAt
    rw [hrevoked]
    simp [extend, hlength]
  consumedAt := by
    rw [hnew.consumedAt]
    simp [extend, hlength]
  reason := by
    rw [hnew.reason]
    exact hopen.symm
  revokedAt := by
    rw [hnew.revokedAt]
    exact hopen.symm

end Family

namespace Table

theorem Indexed.exchanged {t : Table} {now : Instant} {id : RecordId} {s : Record}
    (ht : t.Indexed) (hhash : t.byHash.get? s.tokenHash = none)
    (hid : t.records.get? s.id = none) : (t.exchanged now id s).Indexed := by
  intro hash k
  have hstore := ht.store hhash hid hash k
  apply hstore.trans
  have hget : (t.exchanged now id s).records.get? k =
      if k = id then ((t.store s).records.get? k).map
        (fun r => r.moveTo now .consumed (some s.id))
      else (t.store s).records.get? k := Registry.get?_modify _ _ _ _
  rw [hget]
  split
  · constructor
    · intro h
      rcases h with ⟨r, hr, htoken⟩
      exact ⟨r.moveTo now .consumed (some s.id), by rw [hr]; rfl, htoken⟩
    · intro h
      rcases h with ⟨q, hq, htoken⟩
      rcases Option.map_eq_some_iff.mp hq with ⟨r, hr, rfl⟩
      exact ⟨r, hr, htoken⟩
  · exact Iff.rfl

theorem Linked.exchanged {t : Table} {now : Instant} {id : RecordId} {r s : Record}
    (ht : t.Linked) (hrecord : t.records.get? id = some r)
    (hhash : t.byHash.get? s.tokenHash = none) (hid : t.records.get? s.id = none)
    (hfamily : s.family = r.family) : (t.exchanged now id s).Linked := by
  rcases ht.listed id r hrecord with ⟨f, hf, hmem⟩
  have hextended : (t.exchanged now id s).families.get? r.family = some (f.extend s.id) := by
    rw [get?_families_exchanged, if_pos hfamily.symm, hf]
    rfl
  constructor
  case indexed => exact ht.indexed.exchanged hhash hid
  case keyed =>
      intro k q h
      rcases get?_records_exchanged_cases hrecord hid h with ⟨rfl, rfl⟩ | ⟨rfl, rfl⟩ | ⟨_, _, hq⟩
      · exact ht.keyed _ r hrecord
      · rfl
      · exact ht.keyed k q hq
  case listed =>
      intro k q h
      rcases get?_records_exchanged_cases hrecord hid h with ⟨rfl, rfl⟩ | ⟨rfl, rfl⟩ | ⟨_, _, hq⟩
      · exact ⟨_, hextended, List.mem_append_left _ hmem⟩
      · rw [hfamily]
        exact ⟨_, hextended, by simp [Family.extend]⟩
      · rcases ht.listed k q hq with ⟨g, hg, hin⟩
        rw [get?_families_exchanged, hg]
        split
        · exact ⟨_, rfl, List.mem_append_left _ hin⟩
        · exact ⟨g, rfl, hin⟩

theorem Coherent.exchanged {t : Table} {now : Instant} {id : RecordId} {r s : Record}
    (ht : t.Coherent) (hrecord : t.records.get? id = some r) (hstate : r.state = .active)
    (hhash : t.byHash.get? s.tokenHash = none) (hid : t.records.get? s.id = none)
    (hnew : s.Succeeds r) : (t.exchanged now id s).Coherent := by
  rcases ht.last_of_active hrecord hstate with ⟨f, last, hf, hlast, hfills, hopen, hlength⟩
  have hlinked : (t.exchanged now id s).Linked :=
    ht.linked.exchanged hrecord hhash hid hnew.family
  have hfresh : ∀ fam g, t.families.get? fam = some g → s.id ∉ g.records := by
    intro fam g hg hin
    rcases List.mem_iff_getElem?.mp hin with ⟨k, hk⟩
    rcases ht.filled fam g k s.id hg hk with ⟨q, hq, _⟩
    rw [hid] at hq
    cases hq
  have hextended : (t.exchanged now id s).families.get? r.family = some (f.extend s.id) := by
    rw [get?_families_exchanged, if_pos hnew.family.symm, hf]
    rfl
  constructor
  case indexed => exact hlinked.indexed
  case keyed => exact hlinked.keyed
  case listed => exact hlinked.listed
  case nodup =>
      intro fam g hg
      rw [get?_families_exchanged] at hg
      split at hg
      · rcases Option.map_eq_some_iff.mp hg with ⟨h, hh, rfl⟩
        refine List.nodup_append.mpr ⟨ht.nodup fam h hh, by simp, ?_⟩
        intro a ha b hb hlater
        subst hlater
        rw [List.mem_singleton.mp hb] at ha
        exact hfresh fam h hh ha
      · exact ht.nodup fam g hg
  case nonempty =>
      intro fam g hg
      rw [get?_families_exchanged] at hg
      split at hg
      · rcases Option.map_eq_some_iff.mp hg with ⟨h, _, rfl⟩
        simp [Family.extend]
      · exact ht.nonempty fam g hg
  case filled =>
      intro fam g k i hg hk
      by_cases hfam : fam = r.family
      · rw [hfam, hextended] at hg
        cases hg
        rw [hfam]
        rcases Nat.lt_trichotomy k last with hlt | rfl | hgt
        · have hk' : f.records[k]? = some i := by
            rw [← hk]
            exact (List.getElem?_append_left (by omega)).symm
          rcases ht.filled _ f k i hf hk' with ⟨q, hq, hplace⟩
          have hne : i ≠ id := by
            intro hlater
            subst hlater
            have hsame := (List.getElem?_inj (by omega) (ht.nodup _ f hf)).mp (hk'.trans hlast.symm)
            omega
          exact ⟨q, get?_records_exchanged_kept hid hq hne,
            Family.fills_extend_of_lt hplace s.id (by omega)⟩
        · have hi : i = id := by
            have hleft : (f.extend s.id).records[k]? = f.records[k]? :=
              List.getElem?_append_left (by omega)
            rw [hleft, hlast] at hk
            exact (Option.some.inj hk).symm
          rw [hi]
          exact ⟨_, get?_records_exchanged_self hrecord hid,
            Family.fills_extend_moveTo hfills hopen hlength now s.id⟩
        · rcases List.getElem?_eq_some_iff.mp hk with ⟨hbound, heq⟩
          have hplace : k = last + 1 := by
            simp only [Family.extend, List.length_append, List.length_singleton] at hbound
            omega
          have hi : i = s.id := by
            rw [← heq]
            simp [Family.extend, hplace, ← hlength]
          rw [hi, hplace]
          exact ⟨_, get?_records_exchanged_successor hrecord hid,
            Family.fills_extend_successor hfills hopen hlength hnew⟩
      · rw [get?_families_exchanged, if_neg (by rw [hnew.family]; exact hfam)] at hg
        rcases ht.filled fam g k i hg hk with ⟨q, hq, hplace⟩
        have hne : i ≠ id := by
          intro hlater
          subst hlater
          rw [hrecord] at hq
          cases hq
          exact hfam hplace.family.symm
        exact ⟨q, get?_records_exchanged_kept hid hq hne, hplace⟩

/-! # Withdrawals -/

end Table

theorem Record.Fills.withdraw {r : Record} {fam : FamilyId} {f : Family} {k : Nat}
    (h : r.Fills fam f k) (now : Instant) (reason : Reason) :
    (r.revoke now reason).Fills fam (f.withdraw now) k := by
  by_cases hstate : r.state = .revoked
  · rw [Record.revoke_of_revoked hstate]
    have hrevoked : f.isRevoked = true := by
      cases hr : f.isRevoked with
      | true => rfl
      | false => exact absurd (h.state.symm.trans hstate) (Family.stateAt_ne_revoked hr k)
    rw [Family.withdraw_of_isRevoked hrevoked]
    exact h
  · rw [Record.revoke_of_not_revoked hstate]
    exact {
      family := h.family
      subject := h.subject
      generation := h.generation
      replacedBy := h.replacedBy
      state := rfl
      consumedAt := h.consumedAt
      reason := rfl
      revokedAt := rfl }

namespace Table

theorem exists_of_withdrawn {t : Table} {now : Instant} {fam : FamilyId} {reason : Reason}
    {id : RecordId} {q : Record}
    (h : (t.revokeFamily now fam reason).2.records.get? id = some q) :
    ∃ r, t.records.get? id = some r ∧ (q = r ∨ q = r.revoke now reason) := by
  rcases get?_records_revokeFamily_cases (t := t) now fam reason id with hsame | hmap
  · rw [hsame] at h
    exact ⟨q, h, Or.inl rfl⟩
  · rw [hmap] at h
    rcases Option.map_eq_some_iff.mp h with ⟨r, hr, rfl⟩
    exact ⟨r, hr, Or.inr rfl⟩

theorem Linked.withdrawn {t : Table} (ht : t.Linked) (now : Instant) (fam : FamilyId)
    (reason : Reason) : (t.revokeFamily now fam reason).2.Linked := by
  cases hf : t.families.get? fam with
  | none =>
      rw [revokeFamily_of_unknown now fam reason hf]
      exact ht
  | some f =>
      have hrecords := get?_records_revokeFamily now fam reason hf
      have hfamilies := get?_families_revokeFamily (t := t) now fam reason
      constructor
      case indexed =>
          intro hash id
          rw [byHash_revokeFamily, ht.indexed hash id, hrecords]
          split
          · constructor
            · intro hx
              rcases hx with ⟨r, hr, hhash⟩
              exact ⟨_, by rw [hr]; rfl, (r.revoke_keeps now reason).2.2.2.2.1.trans hhash⟩
            · intro hx
              rcases hx with ⟨q, hq, hhash⟩
              rcases Option.map_eq_some_iff.mp hq with ⟨r, hr, rfl⟩
              exact ⟨r, hr, (r.revoke_keeps now reason).2.2.2.2.1.symm.trans hhash⟩
          · exact Iff.rfl
      case keyed =>
          intro id q h
          rcases exists_of_withdrawn h with ⟨r, hr, rfl | rfl⟩
          · exact ht.keyed id q hr
          · exact (r.revoke_keeps now reason).1.trans (ht.keyed id r hr)
      case listed =>
          intro id q h
          have hsame : ∃ r, t.records.get? id = some r ∧ q.family = r.family := by
            rcases exists_of_withdrawn h with ⟨r, hr, rfl | rfl⟩
            · exact ⟨q, hr, rfl⟩
            · exact ⟨r, hr, (r.revoke_keeps now reason).2.2.1⟩
          rcases hsame with ⟨r, hr, hfamily⟩
          rcases ht.listed id r hr with ⟨g, hg, hin⟩
          rw [hfamilies, hfamily, hg]
          split
          · exact ⟨_, rfl, hin⟩
          · exact ⟨g, rfl, hin⟩

theorem Coherent.withdrawn {t : Table} (ht : t.Coherent) (now : Instant) (fam : FamilyId)
    (reason : Reason) : (t.revokeFamily now fam reason).2.Coherent := by
  cases hf : t.families.get? fam with
  | none =>
      rw [revokeFamily_of_unknown now fam reason hf]
      exact ht
  | some f =>
      have hrecords := get?_records_revokeFamily now fam reason hf
      have hfamilies := get?_families_revokeFamily (t := t) now fam reason
      constructor
      case indexed => exact (ht.linked.withdrawn now fam reason).indexed
      case keyed => exact (ht.linked.withdrawn now fam reason).keyed
      case listed => exact (ht.linked.withdrawn now fam reason).listed
      case nodup =>
          intro k g hg
          rw [hfamilies] at hg
          split at hg
          · rcases Option.map_eq_some_iff.mp hg with ⟨h, hh, rfl⟩
            exact ht.nodup k h hh
          · exact ht.nodup k g hg
      case nonempty =>
          intro k g hg
          rw [hfamilies] at hg
          split at hg
          · rcases Option.map_eq_some_iff.mp hg with ⟨h, hh, rfl⟩
            exact ht.nonempty k h hh
          · exact ht.nonempty k g hg
      case filled =>
          intro k g place id hg hplace
          rw [hfamilies] at hg
          split at hg
          case isTrue hk =>
              rw [hk] at hg ⊢
              rw [hf] at hg
              cases hg
              rcases ht.filled fam f place id hf hplace with ⟨r, hr, hfills⟩
              have hmem : id ∈ f.records := List.mem_of_getElem? hplace
              refine ⟨r.revoke now reason, ?_, hfills.withdraw now reason⟩
              rw [hrecords, if_pos hmem, hr]
              rfl
          case isFalse hk =>
              rcases ht.filled k g place id hg hplace with ⟨r, hr, hfills⟩
              have hnot : id ∉ f.records := by
                intro hmem
                exact hk (hfills.family.symm.trans (ht.family_of_mem hf hmem hr))
              refine ⟨r, ?_, hfills⟩
              rw [hrecords, if_neg hnot]
              exact hr

/-! # Changes -/

theorem Coherent.change {t u : Table} (ht : t.Coherent) (h : Change t u) : u.Coherent := by
  cases h with
  | added hfamily hhash hid hnew hfirst => exact ht.added hfamily hhash hid hnew hfirst
  | exchanged hrecord _ hstate hhash hid hnew =>
      exact ht.exchanged hrecord hstate hhash hid hnew
  | withdrawn now fam reason => exact ht.withdrawn now fam reason

theorem Coherent.changes {t u : Table} (ht : t.Coherent) (h : Changes t u) : u.Coherent := by
  induction h with
  | refl => exact ht
  | tail _ hchange ih => exact ih.change hchange

end Table

end Refresh
end SessionAuth
