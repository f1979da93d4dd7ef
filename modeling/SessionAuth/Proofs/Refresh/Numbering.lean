import SessionAuth.Encoding.Ranges
import SessionAuth.Proofs.Refresh.Effects

/-!
# Generations in order

A family may begin with any generation.  As long as every successor has the generation after that
of the record it replaces, the generations of a family count its records, and sorting by generation
gives the order of issue.
-/

namespace SessionAuth
namespace Refresh

open Time Encoding

/-- A record whose generation tells its place in a family.  Only the last record of a family in
force is active. -/
structure Record.Holds (r : Record) (fam : FamilyId) (f : Family) (first : Int) (k : Nat) :
    Prop where
  family : r.family = fam
  generation : r.generation = first + k
  last : r.state = .active → f.records.length = k + 1 ∧ f.isRevoked = false

namespace Table

variable {t u : Table} {fam : FamilyId} {f : Family} {r s : Record} {id : RecordId}
  {now : Instant}

/-- A table whose families count their records by generations, none of which leaves the range. -/
structure Numbered (t : Table) : Prop extends t.Linked where
  bounded : ∀ id r, t.records.get? id = some r →
    IntRange.int32.low ≤ r.generation ∧ r.generation ≤ IntRange.int32.high
  counted : ∀ fam f, t.families.get? fam = some f → ∃ first : Int,
    ∀ k id, f.records[k]? = some id → ∃ r, t.records.get? id = some r ∧ r.Holds fam f first k

/-- A change of a table in which a family begins with a record of any generation and in any state,
and in which a successor has the generation after that of the record it replaces. -/
inductive Growth (t : Table) : Table → Prop where
  | added {r : Record} (hfamily : t.families.get? r.family = none)
      (hhash : t.byHash.get? r.tokenHash = none) (hid : t.records.get? r.id = none)
      (hbounds : IntRange.int32.low ≤ r.generation ∧ r.generation ≤ IntRange.int32.high) :
      Growth t (t.withFamily r)
  | exchanged {now : Instant} {id : RecordId} {r s : Record}
      (hrecord : t.records.get? id = some r) (hstate : r.state = .active)
      (hhash : t.byHash.get? s.tokenHash = none) (hid : t.records.get? s.id = none)
      (hfamily : s.family = r.family) (hnext : s.generation = r.generation + 1)
      (hbound : s.generation ≤ IntRange.int32.high) : Growth t (t.exchanged now id s)
  | withdrawn (now : Instant) (fam : FamilyId) (reason : Reason) :
      Growth t (t.revokeFamily now fam reason).2

theorem numbered_empty : empty.Numbered where
  toLinked := linked_empty
  bounded := by
    intro id r h
    cases h
  counted := by
    intro fam f h
    cases h

/-! # Places -/

theorem counted_extended {first : Int} (hrecord : t.records.get? id = some r)
    (hid : t.records.get? s.id = none) (hfamily : s.family = r.family)
    (hlive : f.isRevoked = false) (hlast : f.records.getLast? = some id)
    (hgeneration : s.generation = first + f.records.length)
    (hcounted : ∀ k i, f.records[k]? = some i →
      ∃ q, t.records.get? i = some q ∧ q.Holds r.family f first k) :
    ∀ k i, (f.extend s.id).records[k]? = some i → ∃ q,
      (t.exchanged now id s).records.get? i = some q ∧
        q.Holds r.family (f.extend s.id) first k := by
  intro k i hk
  rcases Nat.lt_trichotomy k f.records.length with hlt | heq | hgt
  · have hold : f.records[k]? = some i := by
      rw [← hk]
      exact (List.getElem?_append_left hlt).symm
    rcases hcounted k i hold with ⟨q, hq, hholds⟩
    by_cases hi : i = id
    · rw [hi, hrecord] at hq
      cases hq
      rw [hi]
      exact ⟨_, get?_records_exchanged_self hrecord hid, hholds.family, hholds.generation,
        fun h => nomatch h⟩
    · refine ⟨q, get?_records_exchanged_kept hid hq hi, hholds.family, hholds.generation, ?_⟩
      -- Only the last record was active, and it is the one that has been exchanged.
      intro hactive
      have hlength := (hholds.last hactive).left
      rw [List.getLast?_eq_getElem?, hlength, Nat.add_sub_cancel, hold] at hlast
      exact absurd (Option.some.inj hlast) hi
  · have hi : i = s.id := by
      rw [heq] at hk
      simpa [Family.extend, eq_comm] using hk
    rw [hi, heq]
    refine ⟨s, get?_records_exchanged_successor hrecord hid, hfamily, hgeneration, ?_⟩
    intro _
    exact ⟨by simp [Family.extend], hlive⟩
  · have hlength := (List.getElem?_eq_some_iff.mp hk).choose
    simp only [Family.extend, List.length_append, List.length_singleton] at hlength
    omega

namespace Numbered

theorem last_of_active (ht : t.Numbered) (hr : t.records.get? id = some r)
    (hstate : r.state = .active) :
    ∃ f first, t.families.get? r.family = some f ∧ f.isRevoked = false ∧
      f.records.getLast? = some id ∧ r.generation + 1 = first + f.records.length ∧
      ∀ k id, f.records[k]? = some id →
        ∃ r', t.records.get? id = some r' ∧ r'.Holds r.family f first k := by
  rcases ht.listed id r hr with ⟨f, hf, hmem⟩
  rcases List.mem_iff_getElem?.mp hmem with ⟨k, hk⟩
  rcases ht.counted r.family f hf with ⟨first, hcounted⟩
  rcases hcounted k id hk with ⟨r', hr', hholds⟩
  rw [hr] at hr'
  cases hr'
  rcases hholds.last hstate with ⟨hlength, hlive⟩
  refine ⟨f, first, hf, hlive, ?_, ?_, hcounted⟩
  · rw [List.getLast?_eq_getElem?, hlength]
    exact hk
  · rw [hholds.generation, hlength]
    push_cast
    omega

theorem placed (ht : t.Numbered) : t.Placed where
  listed := ht.listed
  family_of_mem := by
    intro fam f id r hf hmem hr
    rcases List.mem_iff_getElem?.mp hmem with ⟨k, hk⟩
    rcases ht.counted fam f hf with ⟨first, hcounted⟩
    rcases hcounted k id hk with ⟨r', hr', hholds⟩
    rw [hr] at hr'
    cases hr'
    exact hholds.family

/-! # Changes -/

theorem added (ht : t.Numbered) (hfamily : t.families.get? r.family = none)
    (hhash : t.byHash.get? r.tokenHash = none) (hid : t.records.get? r.id = none)
    (hbounds : IntRange.int32.low ≤ r.generation ∧ r.generation ≤ IntRange.int32.high) :
    (t.withFamily r).Numbered where
  toLinked := ht.toLinked.added hfamily hhash hid
  bounded := by
    intro id q h
    rw [get?_records_withFamily] at h
    split at h
    · cases h
      exact hbounds
    · exact ht.bounded id q h
  counted := by
    intro fam f hf
    rw [get?_families_withFamily] at hf
    split at hf
    case isTrue hfam =>
        cases hf
        refine ⟨r.generation, ?_⟩
        intro k id hk
        rcases List.getElem?_eq_some_iff.mp hk with ⟨hlt, heq⟩
        obtain rfl : k = 0 := by simpa using hlt
        refine ⟨r, ?_, hfam.symm, by simp, fun _ => ⟨rfl, rfl⟩⟩
        rw [get?_records_withFamily]
        exact if_pos heq.symm
    case isFalse =>
        rcases ht.counted fam f hf with ⟨first, hcounted⟩
        refine ⟨first, ?_⟩
        intro k id hk
        rcases hcounted k id hk with ⟨q, hq, hholds⟩
        have hne : id ≠ r.id := by
          intro hsame
          rw [hsame, hid] at hq
          cases hq
        exact ⟨q, by rw [get?_records_withFamily, if_neg hne]; exact hq, hholds⟩

theorem exchanged (ht : t.Numbered) (hrecord : t.records.get? id = some r)
    (hstate : r.state = .active) (hhash : t.byHash.get? s.tokenHash = none)
    (hid : t.records.get? s.id = none) (hfamily : s.family = r.family)
    (hnext : s.generation = r.generation + 1) (hbound : s.generation ≤ IntRange.int32.high) :
    (t.exchanged now id s).Numbered := by
  rcases ht.last_of_active hrecord hstate with ⟨f, first, hf, hlive, hlast, hgeneration, hcounted⟩
  have hextended : (t.exchanged now id s).families.get? r.family = some (f.extend s.id) := by
    rw [get?_families_exchanged, if_pos hfamily.symm, hf]
    rfl
  constructor
  case toLinked => exact ht.toLinked.exchanged hrecord hhash hid hfamily
  case bounded =>
      intro k q h
      rcases get?_records_exchanged_cases hrecord hid h with ⟨rfl, rfl⟩ | ⟨rfl, rfl⟩ | ⟨_, _, hq⟩
      · exact ht.bounded _ r hrecord
      · have hlow := (ht.bounded _ r hrecord).left
        exact ⟨by omega, hbound⟩
      · exact ht.bounded k q hq
  case counted =>
      intro fam g hg
      by_cases hfam : fam = r.family
      · rw [hfam, hextended] at hg
        cases hg
        rw [hfam]
        exact ⟨first, counted_extended hrecord hid hfamily hlive hlast (by omega) hcounted⟩
      · have hother : t.families.get? fam = some g := by
          rw [get?_families_exchanged, if_neg (fun h => hfam (h.trans hfamily))] at hg
          exact hg
        rcases ht.counted fam g hother with ⟨first', hcounted'⟩
        refine ⟨first', ?_⟩
        intro k i hk
        rcases hcounted' k i hk with ⟨q, hq, hholds⟩
        refine ⟨q, get?_records_exchanged_kept hid hq ?_, hholds⟩
        intro hi
        rw [hi, hrecord] at hq
        cases hq
        exact hfam hholds.family.symm

theorem withdrawn (ht : t.Numbered) (now : Instant) (fam : FamilyId) (reason : Reason) :
    (t.revokeFamily now fam reason).2.Numbered := by
  constructor
  case toLinked => exact ht.toLinked.withdrawn now fam reason
  case bounded =>
      intro id q h
      rcases exists_of_withdrawn h with ⟨r, hr, rfl | rfl⟩
      · exact ht.bounded id q hr
      · rw [(r.revoke_keeps now reason).2.2.2.1]
        exact ht.bounded id r hr
  case counted =>
      intro k g hg
      rw [get?_families_revokeFamily] at hg
      split at hg
      case isTrue hk =>
          rcases Option.map_eq_some_iff.mp hg with ⟨f, hf, rfl⟩
          rcases ht.counted k f hf with ⟨first, hcounted⟩
          refine ⟨first, ?_⟩
          intro place id hplace
          rcases hcounted place id hplace with ⟨r, hr, hholds⟩
          refine ⟨r.revoke now reason, ?_, (r.revoke_keeps now reason).2.2.1.trans hholds.family,
            (r.revoke_keeps now reason).2.2.2.1.trans hholds.generation, ?_⟩
          · rw [ht.placed.get?_records_withdrawn, hr, Option.map_some,
              if_pos (hholds.family.trans hk)]
          · intro hactive
            rw [Record.state_revoke] at hactive
            cases hactive
      case isFalse hk =>
          rcases ht.counted k g hg with ⟨first, hcounted⟩
          refine ⟨first, ?_⟩
          intro place id hplace
          rcases hcounted place id hplace with ⟨r, hr, hholds⟩
          refine ⟨r, ?_, hholds⟩
          rw [ht.placed.get?_records_withdrawn, hr, Option.map_some, if_neg]
          exact fun hfamily => hk (hholds.family.symm.trans hfamily)

theorem growth (ht : t.Numbered) (h : Growth t u) : u.Numbered := by
  cases h with
  | added hfamily hhash hid hbounds => exact ht.added hfamily hhash hid hbounds
  | exchanged hrecord hstate hhash hid hfamily hnext hbound =>
      exact ht.exchanged hrecord hstate hhash hid hfamily hnext hbound
  | withdrawn now fam reason => exact ht.withdrawn now fam reason

end Numbered

/-- Any number of such changes leaves the families in order. -/
theorem numbered_of_growth (h : Relation.ReflTransGen Growth empty t) : t.Numbered := by
  induction h with
  | refl => exact numbered_empty
  | tail _ hgrowth ih => exact ih.growth hgrowth

/-! # Listing -/

/-- A list of the records of a family in the order of issue.  Their generations count upwards, and
an active record comes last. -/
structure Chronicle (t : Table) (fam : FamilyId) (rs : List Record) : Prop where
  issued : ∀ f, t.families.get? fam = some f → rs.map Record.id = f.records
  members : ∀ r, r ∈ rs ↔ t.records.get? r.id = some r ∧ r.family = fam
  counted : ∃ first : Int, ∀ (k : Nat) r, rs[k]? = some r → r.generation = first + k
  active : ∀ r ∈ rs, r.state = .active → rs.getLast? = some r

theorem map_get?_eq {κ ν : Type} [DecidableEq κ] {m : Registry κ ν} {ks : List κ}
    (h : ∀ k ∈ ks, ∃ v, m.get? k = some v) :
    ks.map m.get? = (ks.filterMap m.get?).map some := by
  induction ks with
  | nil => rfl
  | cons k ks ih =>
      rcases h k List.mem_cons_self with ⟨v, hv⟩
      rw [List.map_cons, ih (fun k hk => h k (List.mem_cons_of_mem _ hk)),
        List.filterMap_cons_some hv, List.map_cons, hv]

theorem Numbered.chronicle_filterMap (ht : t.Numbered) (hf : t.families.get? fam = some f) :
    t.Chronicle fam (f.records.filterMap t.records.get?) := by
  rcases ht.counted fam f hf with ⟨first, hcounted⟩
  have hmap : f.records.map t.records.get? = (f.records.filterMap t.records.get?).map some := by
    apply map_get?_eq
    intro id hmem
    rcases List.mem_iff_getElem?.mp hmem with ⟨k, hk⟩
    rcases hcounted k id hk with ⟨r, hr, _⟩
    exact ⟨r, hr⟩
  have hplace : ∀ (k : Nat) r, (f.records.filterMap t.records.get?)[k]? = some r →
      f.records[k]? = some r.id ∧ r.Holds fam f first k := by
    intro k r hr
    have hk : (f.records[k]?).map t.records.get? = some (some r) := by
      rw [← List.getElem?_map, hmap, List.getElem?_map, hr]
      rfl
    rcases Option.map_eq_some_iff.mp hk with ⟨id, hid, hget⟩
    rcases hcounted k id hid with ⟨r', hr', hholds⟩
    rw [hget] at hr'
    cases hr'
    rw [ht.keyed id r hget]
    exact ⟨hid, hholds⟩
  have hlength : (f.records.filterMap t.records.get?).length = f.records.length := by
    simpa using (congrArg List.length hmap).symm
  constructor
  case issued =>
      intro g hg
      rw [hf] at hg
      cases hg
      apply List.ext_getElem?
      intro k
      rw [List.getElem?_map]
      cases hr : (f.records.filterMap t.records.get?)[k]? with
      | none =>
          rw [List.getElem?_eq_none_iff, hlength] at hr
          exact (List.getElem?_eq_none hr).symm
      | some r => exact (hplace k r hr).left.symm
  case members =>
      intro r
      rw [List.mem_filterMap]
      constructor
      · rintro ⟨id, hmem, hr⟩
        rw [ht.keyed id r hr]
        exact ⟨hr, ht.placed.family_of_mem fam f id r hf hmem hr⟩
      · rintro ⟨hr, rfl⟩
        rcases ht.listed r.id r hr with ⟨g, hg, hmem⟩
        rw [hf] at hg
        cases hg
        exact ⟨r.id, hmem, hr⟩
  case counted =>
      refine ⟨first, ?_⟩
      intro k r hr
      exact (hplace k r hr).right.generation
  case active =>
      intro r hmem hactive
      rcases List.mem_iff_getElem?.mp hmem with ⟨k, hr⟩
      have hlast := ((hplace k r hr).right.last hactive).left
      rw [List.getLast?_eq_getElem?, hlength, hlast]
      exact hr

theorem Chronicle.ascending {rs : List Record} (h : t.Chronicle fam rs) :
    rs.Pairwise (fun r s => r.generation < s.generation) := by
  rcases h.counted with ⟨first, hcounted⟩
  rw [List.pairwise_iff_getElem]
  intro i j hi hj hij
  rw [hcounted i _ (List.getElem?_eq_getElem hi), hcounted j _ (List.getElem?_eq_getElem hj)]
  omega

theorem Chronicle.lt_of_getLast? {rs : List Record} (h : t.Chronicle fam rs) {next q : Record}
    (hlast : rs.getLast? = some next) (hq : q ∈ rs) (hne : q ≠ next) :
    q.generation < next.generation := by
  rcases List.getLast?_eq_some_iff.mp hlast with ⟨before, rfl⟩
  have hbefore : q ∈ before := by simpa [hne] using hq
  exact (List.pairwise_append.mp h.ascending).right.right q hbefore next List.mem_cons_self

/-- Sorting by generation gives the order of issue. -/
theorem Numbered.chronicle (ht : t.Numbered) (fam : FamilyId) :
    t.Chronicle fam (t.familyRecords fam) := by
  unfold familyRecords
  cases hf : t.families.get? fam with
  | none =>
      constructor
      case issued =>
          intro f hf'
          rw [hf] at hf'
          cases hf'
      case members =>
          intro r
          constructor
          · intro hmem
            cases hmem
          · rintro ⟨hr, rfl⟩
            rcases ht.listed r.id r hr with ⟨f, hf', _⟩
            rw [hf] at hf'
            cases hf'
      case counted => exact ⟨0, fun _ _ h => nomatch h⟩
      case active =>
          intro r hmem
          cases hmem
  | some f =>
      have hchronicle := ht.chronicle_filterMap hf
      dsimp only
      rw [List.mergeSort_of_pairwise]
      · exact hchronicle
      · exact hchronicle.ascending.imp fun hlt => decide_eq_true (Int.le_of_lt hlt)

end Table

end Refresh
end SessionAuth
