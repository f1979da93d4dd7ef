import Mathlib.Logic.Relation
import SessionAuth.Refresh.Table

/-!
# What the operations on a table do

Each operation on a table of refresh records is described once by what it leaves at every key.
All that is said about tables later on is derived from these descriptions.
-/

namespace SessionAuth

namespace Registry

variable {κ ν : Type} [DecidableEq κ]

theorem lookup_eq_some_of_mem {entries : List (κ × ν)} (hnodup : (entries.map Prod.fst).Nodup)
    {k : κ} {v : ν} (h : (k, v) ∈ entries) : entries.lookup k = some v := by
  induction entries with
  | nil => cases h
  | cons e rest ih =>
      rcases e with ⟨a, w⟩
      rw [List.map_cons, List.nodup_cons] at hnodup
      rcases List.mem_cons.mp h with heq | hrest
      · cases heq
        simp
      · have hmem : k ∈ rest.map Prod.fst := List.mem_map.mpr ⟨(k, v), hrest, rfl⟩
        have hne : (k == a) = false := by
          rw [beq_eq_false_iff_ne]
          intro hsame
          subst hsame
          exact hnodup.left hmem
        rw [List.lookup_cons, hne]
        exact ih hnodup.right hrest

theorem mem_of_lookup_eq_some {entries : List (κ × ν)} {k : κ} {v : ν}
    (h : entries.lookup k = some v) : (k, v) ∈ entries := by
  induction entries with
  | nil => cases h
  | cons e rest ih =>
      rcases e with ⟨a, w⟩
      by_cases hk : k = a
      · rw [hk] at h ⊢
        simp at h
        simp [h]
      · have hne : (k == a) = false := beq_eq_false_iff_ne.mpr hk
        rw [List.lookup_cons, hne] at h
        exact List.mem_cons_of_mem _ (ih h)

theorem mem_entries {r : Registry κ ν} {k : κ} {v : ν} :
    (k, v) ∈ r.entries ↔ r.get? k = some v :=
  ⟨lookup_eq_some_of_mem r.nodup_keys, mem_of_lookup_eq_some⟩

theorem modify_eq_self {r : Registry κ ν} {k : κ} {g : ν → ν}
    (h : ∀ v, r.get? k = some v → g v = v) : r.modify k g = r := by
  rcases r with ⟨entries, hnodup⟩
  unfold modify
  congr 1
  unfold modifyEntries
  rw [List.map_congr_left (g := fun e => e), List.map_id']
  rintro ⟨a, v⟩ hmem
  split
  case isTrue ha =>
      have hv : g v = v := h v (ha ▸ lookup_eq_some_of_mem hnodup hmem)
      rw [hv]
  case isFalse => rfl

theorem contains_eq_false {r : Registry κ ν} {k : κ} :
    r.contains k = false ↔ r.get? k = none := by
  unfold contains
  rw [Option.isSome_eq_false_iff, Option.isNone_iff_eq_none]

end Registry

namespace Refresh

open Time

/-! # Withdrawing one record or one family -/

namespace Record

theorem revoke_of_revoked {r : Record} (h : r.state = .revoked) (now : Instant)
    (reason : Reason) : r.revoke now reason = r := by
  unfold revoke
  rw [if_pos h]

theorem revoke_of_not_revoked {r : Record} (h : r.state ≠ .revoked) (now : Instant)
    (reason : Reason) :
    r.revoke now reason =
      { r with state := .revoked, reason := some reason, revokedAt := some now } := by
  unfold revoke
  rw [if_neg h]

@[simp] theorem state_revoke (r : Record) (now : Instant) (reason : Reason) :
    (r.revoke now reason).state = .revoked := by
  unfold revoke
  split
  · assumption
  · rfl

@[simp] theorem revoke_revoke (r : Record) (now : Instant) (reason : Reason) :
    (r.revoke now reason).revoke now reason = r.revoke now reason :=
  revoke_of_revoked (state_revoke r now reason) now reason

theorem revoke_keeps (r : Record) (now : Instant) (reason : Reason) :
    let s := r.revoke now reason
    s.id = r.id ∧ s.subject = r.subject ∧ s.family = r.family ∧ s.generation = r.generation ∧
      s.tokenHash = r.tokenHash ∧ s.replacedBy = r.replacedBy ∧ s.expiresAt = r.expiresAt ∧
      s.createdAt = r.createdAt ∧ s.consumedAt = r.consumedAt := by
  unfold revoke
  split
  · exact ⟨rfl, rfl, rfl, rfl, rfl, rfl, rfl, rfl, rfl⟩
  · exact ⟨rfl, rfl, rfl, rfl, rfl, rfl, rfl, rfl, rfl⟩

end Record

namespace Family

/-- A family after its withdrawal.  The first withdrawal counts. -/
def withdraw (f : Family) (now : Instant) : Family :=
  { f with revokedAt := some (f.revokedAt.getD now) }

def extend (f : Family) (id : RecordId) : Family :=
  { f with records := f.records ++ [id] }

@[simp] theorem isRevoked_withdraw (f : Family) (now : Instant) :
    (f.withdraw now).isRevoked = true := rfl

theorem withdraw_of_isRevoked {f : Family} (h : f.isRevoked = true) (now : Instant) :
    f.withdraw now = f := by
  rcases f with ⟨subject, records, revokedAt⟩
  cases revokedAt with
  | none => cases h
  | some t => rfl

@[simp] theorem withdraw_withdraw (f : Family) (now : Instant) :
    (f.withdraw now).withdraw now = f.withdraw now := rfl

end Family

namespace Table

variable {t u : Table}

theorem findByHash_eq_some {hash : String} {r : Record} :
    t.findByHash hash = some r ↔ ∃ id, t.byHash.get? hash = some id ∧ t.records.get? id = some r :=
  Option.bind_eq_some_iff

theorem isClosed_eq_false {fam : FamilyId} :
    t.isClosed fam = false ↔ ∃ f, t.families.get? fam = some f ∧ f.isRevoked = false := by
  unfold isClosed
  cases t.families.get? fam with
  | none => simp
  | some f => simp

theorem isClosed_eq_true {fam : FamilyId} :
    t.isClosed fam = true ↔ ∀ f, t.families.get? fam = some f → f.isRevoked = true := by
  unfold isClosed
  cases t.families.get? fam with
  | none => simp
  | some f => simp

/-! # Adding -/

def store (t : Table) (r : Record) : Table :=
  { t with
    byHash := t.byHash.insert r.tokenHash r.id
    records := t.records.insert r.id r }

theorem push_eq_ok {r : Record} :
    t.push r = .ok u ↔ t.byHash.get? r.tokenHash = none ∧ u = t.store r := by
  unfold push
  split
  case isTrue h =>
      constructor
      · intro hu
        cases hu
      · intro hx
        rcases hx with ⟨hnone, _⟩
        rw [Registry.contains_eq_false.mpr hnone] at h
        cases h
  case isFalse h =>
      constructor
      · intro hu
        cases hu
        exact ⟨Registry.contains_eq_false.mp (Bool.eq_false_iff.mpr h), rfl⟩
      · intro hx
        rcases hx with ⟨_, rfl⟩
        rfl

def withFamily (t : Table) (r : Record) : Table :=
  { t.store r with families := t.families.insert r.family ⟨r.subject, [r.id], none⟩ }

theorem insert_eq_ok {r : Record} (h : t.insert r = .ok u) :
    t.families.get? r.family = none ∧ t.byHash.get? r.tokenHash = none ∧ u = t.withFamily r := by
  unfold insert at h
  split at h
  case isTrue => cases h
  case isFalse hfam =>
      cases hpush : t.push r with
      | error e =>
          rw [hpush] at h
          cases h
      | ok v =>
          rw [hpush] at h
          rcases push_eq_ok.mp hpush with ⟨hhash, rfl⟩
          cases h
          exact ⟨Registry.contains_eq_false.mp (Bool.eq_false_iff.mpr hfam), hhash, rfl⟩

/-! # Moving -/

def moved (t : Table) (now : Instant) (id : RecordId) (state : State) : Option Record → Table
  | none => { t with records := t.records.modify id (fun r => r.moveTo now state none) }
  | some s =>
      { records := (t.records.insert s.id s).modify id (fun r => r.moveTo now state (some s.id))
        byHash := t.byHash.insert s.tokenHash s.id
        families := t.families.modify s.family (fun f => f.extend s.id) }

/-- The outcomes of a transition and the tables that they leave. -/
inductive Move (t : Table) (now : Instant) (id : RecordId) (expected state : State)
    (successor : Option Record) : Transition → Table → Prop where
  | notFound (hnone : t.records.get? id = none) :
      Move t now id expected state successor .notFound t
  | familyRevoked {r : Record} (hrecord : t.records.get? id = some r)
      (hclosed : t.isClosed r.family = true) :
      Move t now id expected state successor .familyRevoked t
  | stateMismatch {r : Record} (hrecord : t.records.get? id = some r)
      (hopen : t.isClosed r.family = false) (hstate : r.state ≠ expected) :
      Move t now id expected state successor (.stateMismatch r.state) t
  | applied {r : Record} (hrecord : t.records.get? id = some r)
      (hopen : t.isClosed r.family = false) (hstate : r.state = expected)
      (hsuccessor : ∀ s, successor = some s →
        s.family = r.family ∧ t.byHash.get? s.tokenHash = none) :
      Move t now id expected state successor .applied (t.moved now id state successor)

theorem pushSuccessor_eq_ok {fam : FamilyId} {s : Record} (h : t.pushSuccessor fam s = .ok u) :
    s.family = fam ∧ t.byHash.get? s.tokenHash = none ∧
      u = { t.store s with families := t.families.modify fam (fun f => f.extend s.id) } := by
  unfold pushSuccessor at h
  split at h
  case isTrue => cases h
  case isFalse hfam =>
      cases hpush : t.push s with
      | error e =>
          rw [hpush] at h
          cases h
      | ok v =>
          rw [hpush] at h
          rcases push_eq_ok.mp hpush with ⟨hhash, rfl⟩
          cases h
          exact ⟨Decidable.not_not.mp hfam, hhash, rfl⟩

theorem transition_moves {now : Instant} {id : RecordId} {expected state : State}
    {successor : Option Record} {o : Transition}
    (h : t.transition now id expected state successor = .ok (o, u)) :
    Move t now id expected state successor o u := by
  unfold transition at h
  cases hrecord : t.records.get? id with
  | none =>
      rw [hrecord] at h
      cases h
      exact Move.notFound hrecord
  | some r =>
      rw [hrecord] at h
      dsimp only at h
      split at h
      case isTrue hclosed =>
          cases h
          exact Move.familyRevoked hrecord hclosed
      case isFalse hopen =>
          have hopen' := Bool.eq_false_iff.mpr hopen
          split at h
          case isTrue hstate =>
              cases h
              exact Move.stateMismatch hrecord hopen' hstate
          case isFalse hstate =>
              have hstate' := Decidable.not_not.mp hstate
              cases successor with
              | none =>
                  cases h
                  exact Move.applied hrecord hopen' hstate' (fun _ hnone => nomatch hnone)
              | some s =>
                  cases hpush : t.pushSuccessor r.family s with
                  | error e =>
                      simp only [hpush] at h
                      cases h
                  | ok v =>
                      simp only [hpush] at h
                      rcases pushSuccessor_eq_ok hpush with ⟨hfamily, hhash, rfl⟩
                      cases h
                      rw [← hfamily]
                      refine Move.applied hrecord hopen' hstate' ?_
                      intro q hq
                      cases hq
                      exact ⟨hfamily, hhash⟩

/-! # Exchanging -/

def exchanged (t : Table) (now : Instant) (id : RecordId) (s : Record) : Table :=
  { records := (t.records.insert s.id s).modify id
      (fun r => r.moveTo now .consumed (some s.id))
    byHash := t.byHash.insert s.tokenHash s.id
    families := t.families.modify s.family (fun f => f.extend s.id) }

/-- The outcomes of an exchange and the tables that they leave. -/
inductive Exchange (t : Table) (now : Instant) (id : RecordId) (s : Record) :
    Transition → Table → Prop where
  | notFound (hnone : t.records.get? id = none) : Exchange t now id s .notFound t
  | familyRevoked {r : Record} (hrecord : t.records.get? id = some r)
      (hclosed : t.isClosed r.family = true) : Exchange t now id s .familyRevoked t
  | stateMismatch {r : Record} (hrecord : t.records.get? id = some r)
      (hopen : t.isClosed r.family = false) (hstate : r.state ≠ .active) :
      Exchange t now id s (.stateMismatch r.state) t
  | applied {r : Record} (hrecord : t.records.get? id = some r)
      (hopen : t.isClosed r.family = false) (hstate : r.state = .active)
      (hfamily : s.family = r.family) (hhash : t.byHash.get? s.tokenHash = none) :
      Exchange t now id s .applied (t.exchanged now id s)

theorem transition_cases {now : Instant} {id : RecordId} {s : Record} {o : Transition}
    (h : t.transition now id .active .consumed (some s) = .ok (o, u)) :
    Exchange t now id s o u := by
  cases transition_moves h with
  | notFound hnone => exact Exchange.notFound hnone
  | familyRevoked hrecord hclosed => exact Exchange.familyRevoked hrecord hclosed
  | stateMismatch hrecord hopen hstate => exact Exchange.stateMismatch hrecord hopen hstate
  | applied hrecord hopen hstate hsuccessor =>
      rcases hsuccessor s rfl with ⟨hfamily, hhash⟩
      exact Exchange.applied hrecord hopen hstate hfamily hhash

/-! # Withdrawing families -/

theorem get?_revokeRecords (now : Instant) (reason : Reason) (ids : List RecordId)
    (records : Registry RecordId Record) (k : RecordId) :
    (revokeRecords now reason ids records).2.get? k =
      if k ∈ ids then (records.get? k).map (fun r => r.revoke now reason)
      else records.get? k := by
  induction ids generalizing records with
  | nil => rfl
  | cons id ids ih =>
      have hrest := ih (records.modify id (fun r => r.revoke now reason))
      rw [Registry.get?_modify] at hrest
      apply hrest.trans
      by_cases hk : k = id
      · rw [hk]
        by_cases hmem : id ∈ ids
        · simp [hmem, Function.comp_def]
        · simp [hmem]
      · by_cases hmem : k ∈ ids
        · simp [hk, hmem]
        · simp [hk, hmem]

section Withdrawing

variable (now : Instant) (fam : FamilyId) (reason : Reason)

theorem revokeFamily_of_unknown (h : t.families.get? fam = none) :
    t.revokeFamily now fam reason = (0, t) := by
  unfold revokeFamily
  rw [h]

theorem revokeFamily_of_known {f : Family} (h : t.families.get? fam = some f) :
    (t.revokeFamily now fam reason).2 =
      { t with
        families := t.families.modify fam (fun f => f.withdraw now)
        records := (revokeRecords now reason f.records t.records).2 } := by
  unfold revokeFamily
  rw [h]
  rfl

theorem get?_families_revokeFamily (k : FamilyId) :
    (t.revokeFamily now fam reason).2.families.get? k =
      if k = fam then (t.families.get? k).map (fun f => f.withdraw now)
      else t.families.get? k := by
  cases h : t.families.get? fam with
  | none =>
      rw [revokeFamily_of_unknown now fam reason h]
      by_cases hk : k = fam
      · rw [if_pos hk, hk, h]
        rfl
      · rw [if_neg hk]
  | some f =>
      rw [revokeFamily_of_known now fam reason h]
      exact Registry.get?_modify _ _ _ _

theorem get?_records_revokeFamily {f : Family} (h : t.families.get? fam = some f)
    (k : RecordId) :
    (t.revokeFamily now fam reason).2.records.get? k =
      if k ∈ f.records then (t.records.get? k).map (fun r => r.revoke now reason)
      else t.records.get? k := by
  rw [revokeFamily_of_known now fam reason h]
  exact get?_revokeRecords now reason f.records t.records k

theorem get?_records_revokeFamily_cases (id : RecordId) :
    (t.revokeFamily now fam reason).2.records.get? id = t.records.get? id ∨
      (t.revokeFamily now fam reason).2.records.get? id =
        (t.records.get? id).map (fun r => r.revoke now reason) := by
  cases hg : t.families.get? fam with
  | none =>
      rw [revokeFamily_of_unknown now fam reason hg]
      exact Or.inl rfl
  | some g =>
      rw [get?_records_revokeFamily now fam reason hg]
      split
      · exact Or.inr rfl
      · exact Or.inl rfl

@[simp] theorem byHash_revokeFamily : (t.revokeFamily now fam reason).2.byHash = t.byHash := by
  unfold revokeFamily
  split <;> rfl

theorem mem_liveFamilies {subject : SubjectId} :
    fam ∈ t.liveFamilies subject ↔
      ∃ f, t.families.get? fam = some f ∧ f.subject = subject ∧ f.isRevoked = false := by
  unfold liveFamilies
  rw [List.mem_map]
  constructor
  · intro h
    rcases h with ⟨⟨k, f⟩, hmem, rfl⟩
    rcases List.mem_filter.mp hmem with ⟨hentry, hlive⟩
    simp only [Bool.and_eq_true, decide_eq_true_eq, Bool.not_eq_true'] at hlive
    exact ⟨f, Registry.mem_entries.mp hentry, hlive.left, hlive.right⟩
  · intro h
    rcases h with ⟨f, hf, hsubject, hlive⟩
    refine ⟨(fam, f), List.mem_filter.mpr ⟨Registry.mem_entries.mpr hf, ?_⟩, rfl⟩
    simp [hsubject, hlive]

/-- What every withdrawal of a family keeps, the withdrawal of all families of a subject keeps. -/
theorem revokeSubjectFamilies_induction {P : Table → Prop} (subject : SubjectId) (h : P t)
    (hstep : ∀ u fam, P u → P (u.revokeFamily now fam reason).2) :
    P (t.revokeSubjectFamilies now subject reason).2 := by
  unfold revokeSubjectFamilies
  generalize t.liveFamilies subject = live
  induction live generalizing t with
  | nil => exact h
  | cons fam live ih => exact ih (hstep t fam h)

theorem get?_families_foldl (live : List FamilyId) (k : FamilyId) :
    (live.foldl (fun t fam => (t.revokeFamily now fam reason).2) t).families.get? k =
      if k ∈ live then (t.families.get? k).map (fun f => f.withdraw now)
      else t.families.get? k := by
  induction live generalizing t with
  | nil => rfl
  | cons fam live ih =>
      rw [List.foldl_cons, ih, get?_families_revokeFamily]
      by_cases hk : k = fam
      · rw [hk]
        by_cases hmem : fam ∈ live
        · simp [hmem, Function.comp_def]
        · simp [hmem]
      · by_cases hmem : k ∈ live
        · simp [hk, hmem]
        · simp [hk, hmem]

theorem get?_families_revokeSubjectFamilies (subject : SubjectId) (k : FamilyId) :
    (t.revokeSubjectFamilies now subject reason).2.families.get? k =
      (t.families.get? k).map (fun f => if f.subject = subject then f.withdraw now else f) := by
  refine (get?_families_foldl now reason (t.liveFamilies subject) k).trans ?_
  cases hf : t.families.get? k with
  | none => simp
  | some f =>
      by_cases hmem : k ∈ t.liveFamilies subject
      · rcases (mem_liveFamilies k).mp hmem with ⟨g, hg, hsubject, _⟩
        rw [hf] at hg
        cases hg
        simp [hmem, hsubject]
      · by_cases hsubject : f.subject = subject
        · have hrevoked : f.isRevoked = true := by
            cases hr : f.isRevoked with
            | true => rfl
            | false => exact absurd ((mem_liveFamilies k).mpr ⟨f, hf, hsubject, hr⟩) hmem
          simp [hmem, hsubject, Family.withdraw_of_isRevoked hrevoked]
        · simp [hmem, hsubject]

end Withdrawing

end Table

/-!
# Changes

A table only ever changes by a new family, by an exchange, and by the withdrawal of a family.
What is added has not been in use before.
-/

/-- A record of a credential that was never presented. -/
structure Record.Unused (r : Record) : Prop where
  state : r.state = .active
  replacedBy : r.replacedBy = none
  reason : r.reason = none
  consumedAt : r.consumedAt = none
  revokedAt : r.revokedAt = none

theorem Record.unused_issue (now : Instant) (id : RecordId) (subject : SubjectId)
    (family : FamilyId) (generation : Int) (secret : Secret) (lifetime : Span) :
    (issue now id subject family generation secret lifetime).Unused :=
  ⟨rfl, rfl, rfl, rfl, rfl⟩

/-- An unused record that comes next after another one in its family. -/
structure Record.Succeeds (s r : Record) : Prop extends s.Unused where
  family : s.family = r.family
  subject : s.subject = r.subject
  generation : s.generation = r.generation + 1

namespace Table

/-- A change of a table. -/
inductive Change (t : Table) : Table → Prop where
  | added {r : Record} (hfamily : t.families.get? r.family = none)
      (hhash : t.byHash.get? r.tokenHash = none) (hid : t.records.get? r.id = none)
      (hnew : r.Unused) (hfirst : r.generation = 0) : Change t (t.withFamily r)
  | exchanged {now : Instant} {id : RecordId} {r s : Record}
      (hrecord : t.records.get? id = some r) (hopen : t.isClosed r.family = false)
      (hstate : r.state = .active) (hhash : t.byHash.get? s.tokenHash = none)
      (hid : t.records.get? s.id = none) (hnew : s.Succeeds r) :
      Change t (t.exchanged now id s)
  | withdrawn (now : Instant) (fam : FamilyId) (reason : Reason) :
      Change t (t.revokeFamily now fam reason).2

abbrev Changes : Table → Table → Prop :=
  Relation.ReflTransGen Change

theorem changes_revokeSubjectFamilies (t : Table) (now : Instant) (subject : SubjectId)
    (reason : Reason) : Changes t (t.revokeSubjectFamilies now subject reason).2 := by
  refine revokeSubjectFamilies_induction (P := fun u => Changes t u) now reason subject
    Relation.ReflTransGen.refl ?_
  intro u fam hu
  exact hu.tail (Change.withdrawn now fam reason)

/-! # The tables that changes leave -/

theorem get?_records_withFamily (t : Table) (r : Record) (k : RecordId) :
    (t.withFamily r).records.get? k = if k = r.id then some r else t.records.get? k :=
  Registry.get?_insert _ _ _ _

theorem get?_byHash_withFamily (t : Table) (r : Record) (hash : String) :
    (t.withFamily r).byHash.get? hash =
      if hash = r.tokenHash then some r.id else t.byHash.get? hash :=
  Registry.get?_insert _ _ _ _

theorem get?_families_withFamily (t : Table) (r : Record) (k : FamilyId) :
    (t.withFamily r).families.get? k =
      if k = r.family then some ⟨r.subject, [r.id], none⟩ else t.families.get? k :=
  Registry.get?_insert _ _ _ _

section Moved

variable (t : Table) (now : Instant) (id : RecordId) (state : State) (successor : Option Record)

theorem get?_records_moved (k : RecordId) :
    (t.moved now id state successor).records.get? k =
      ((successor.filter (fun s => decide (s.id = k))).or (t.records.get? k)).map (fun r =>
        if k = id then r.moveTo now state (successor.map Record.id) else r) := by
  have hmodify : ∀ records : Registry RecordId Record,
      (records.modify id (fun r => r.moveTo now state (successor.map Record.id))).get? k =
        (records.get? k).map (fun r =>
          if k = id then r.moveTo now state (successor.map Record.id) else r) := by
    intro records
    rw [Registry.get?_modify]
    split <;> simp
  cases successor with
  | none => exact hmodify t.records
  | some s =>
      refine (hmodify (t.records.insert s.id s)).trans ?_
      rw [Registry.get?_insert]
      by_cases hk : k = s.id
      · simp [hk, Option.filter_some]
      · simp [hk, Ne.symm hk, Option.filter_some]

theorem get?_byHash_moved (hash : String) :
    (t.moved now id state successor).byHash.get? hash =
      ((successor.filter (fun s => decide (s.tokenHash = hash))).map Record.id).or
        (t.byHash.get? hash) := by
  cases successor with
  | none => rfl
  | some s =>
      refine (Registry.get?_insert _ _ _ _).trans ?_
      by_cases hhash : hash = s.tokenHash
      · simp [hhash, Option.filter_some]
      · simp [hhash, Ne.symm hhash, Option.filter_some]

theorem get?_families_moved (k : FamilyId) :
    (t.moved now id state successor).families.get? k =
      (t.families.get? k).map (fun f =>
        { f with
          records := f.records ++
            ((successor.filter (fun s => decide (s.family = k))).map Record.id).toList }) := by
  cases successor with
  | none => simp [moved]
  | some s =>
      refine (Registry.get?_modify _ _ _ _).trans ?_
      by_cases hk : k = s.family
      · simp [hk, Family.extend, Option.filter_some]
      · simp [hk, Ne.symm hk, Option.filter_some]

end Moved

section Exchanged

variable {t : Table} {now : Instant} {id : RecordId} {r s : Record}

theorem get?_byHash_exchanged (hash : String) :
    (t.exchanged now id s).byHash.get? hash =
      if hash = s.tokenHash then some s.id else t.byHash.get? hash :=
  Registry.get?_insert _ _ _ _

theorem get?_families_exchanged (k : FamilyId) :
    (t.exchanged now id s).families.get? k =
      if k = s.family then (t.families.get? k).map (fun f => f.extend s.id)
      else t.families.get? k :=
  Registry.get?_modify _ _ _ _

theorem get?_records_exchanged_self (hrecord : t.records.get? id = some r)
    (hid : t.records.get? s.id = none) :
    (t.exchanged now id s).records.get? id = some (r.moveTo now .consumed (some s.id)) := by
  have hne : id ≠ s.id := by
    intro heq
    subst heq
    rw [hid] at hrecord
    cases hrecord
  unfold exchanged
  rw [Registry.get?_modify, if_pos rfl, Registry.get?_insert, if_neg hne, hrecord]
  rfl

theorem get?_records_exchanged_successor (hrecord : t.records.get? id = some r)
    (hid : t.records.get? s.id = none) :
    (t.exchanged now id s).records.get? s.id = some s := by
  have hne : s.id ≠ id := by
    intro heq
    rw [heq, hrecord] at hid
    cases hid
  unfold exchanged
  rw [Registry.get?_modify, if_neg hne, Registry.get?_insert, if_pos rfl]

theorem get?_records_exchanged_of_ne {k : RecordId} (hk : k ≠ id) (hs : k ≠ s.id) :
    (t.exchanged now id s).records.get? k = t.records.get? k := by
  unfold exchanged
  rw [Registry.get?_modify, if_neg hk, Registry.get?_insert, if_neg hs]

theorem get?_records_exchanged_kept (hid : t.records.get? s.id = none) {k : RecordId}
    {q : Record} (hq : t.records.get? k = some q) (hne : k ≠ id) :
    (t.exchanged now id s).records.get? k = some q := by
  refine (get?_records_exchanged_of_ne hne ?_).trans hq
  intro hsame
  rw [hsame, hid] at hq
  cases hq

theorem get?_records_exchanged_cases (hrecord : t.records.get? id = some r)
    (hid : t.records.get? s.id = none) {k : RecordId} {q : Record}
    (h : (t.exchanged now id s).records.get? k = some q) :
    (k = id ∧ q = r.moveTo now .consumed (some s.id)) ∨ (k = s.id ∧ q = s) ∨
      (k ≠ id ∧ k ≠ s.id ∧ t.records.get? k = some q) := by
  by_cases hk : k = id
  · rw [hk, get?_records_exchanged_self hrecord hid] at h
    exact Or.inl ⟨hk, (Option.some.inj h).symm⟩
  · by_cases hs : k = s.id
    · rw [hs, get?_records_exchanged_successor hrecord hid] at h
      exact Or.inr (Or.inl ⟨hs, (Option.some.inj h).symm⟩)
    · rw [get?_records_exchanged_of_ne hk hs] at h
      exact Or.inr (Or.inr ⟨hk, hs, h⟩)

end Exchanged

end Table

end Refresh

end SessionAuth
