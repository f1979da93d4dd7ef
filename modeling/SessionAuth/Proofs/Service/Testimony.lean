import SessionAuth.Proofs.Refresh.Coherence
import SessionAuth.Proofs.Refresh.Evolution
import SessionAuth.Proofs.Service.Scripts

/-!
# What an answer says about the table

An answer of the store is a testimony about the table of refresh records.  It holds of the table
that the call leaves and of all tables that come after it.  A change of the table, on the other
hand, can be laid at the door of the call that made it.
-/

namespace SessionAuth

open Time Refresh

namespace Turn

/-! # Testimonies -/

/-- What the outcome of a transition says about a table.  A record that is presented is known, and
where its family is in force it is either active or has been exchanged. -/
def AttestsOutcome (t : Table) (id : RecordId) (successor : Option Record) : Transition → Prop
  | .applied => (∃ r, t.records.get? id = some r ∧ r.state ≠ .active) ∧
      ∀ s ∈ successor, ∃ q, t.records.get? s.id = some q ∧ s.Evolves q
  | .stateMismatch state =>
      state = .consumed ∧ ∃ r, t.records.get? id = some r ∧ r.state ≠ .active
  | .familyRevoked => ∃ r, t.records.get? id = some r ∧ r.state = .revoked
  | .notFound => False

/-- What a turn says about a table. -/
def Attests (t : Table) : Turn → Prop
  | ⟨.store (.findById id), .ok (some s)⟩ => s.id = id
  | ⟨.store (.findByHash hash), .ok (some r)⟩ =>
      r.tokenHash = hash ∧ ∃ s, t.records.get? r.id = some s ∧ r.Evolves s
  | ⟨.store (.insert r), .ok _⟩ =>
      (∃ s, t.records.get? r.id = some s ∧ r.Evolves s) ∧
        ∃ f, t.families.get? r.family = some f
  | ⟨.store (.transition id _ _ successor), .ok o⟩ => AttestsOutcome t id successor o
  | ⟨.store (.revokeFamily fam _), .ok _⟩ =>
      ∃ f, t.families.get? fam = some f ∧ f.isRevoked = true
  | ⟨.store (.revokeSubjectFamilies subject _), .ok families⟩ =>
      ∀ fam ∈ families, ∃ f, t.families.get? fam = some f ∧ f.isRevoked = true ∧
        f.subject = subject
  | _ => True

theorem Attests.evolves {t u : Table} {turn : Turn} (h : turn.Attests t) (htu : t.Evolves u) :
    turn.Attests u := by
  have hrecord : ∀ id (r : Record), (∃ s, t.records.get? id = some s ∧ r.Evolves s) →
      ∃ s, u.records.get? id = some s ∧ r.Evolves s := by
    intro id r hx
    rcases hx with ⟨s, hs, hrs⟩
    rcases htu.records id s hs with ⟨q, hq, hsq⟩
    exact ⟨q, hq, hrs.trans hsq⟩
  have hspent : ∀ id, (∃ r, t.records.get? id = some r ∧ r.state ≠ .active) →
      ∃ r, u.records.get? id = some r ∧ r.state ≠ .active := by
    intro id hx
    rcases hx with ⟨r, hr, hstate⟩
    rcases htu.records id r hr with ⟨s, hs, hrs⟩
    exact ⟨s, hs, hrs.spent hstate⟩
  have hrevoked : ∀ fam, (∃ f, t.families.get? fam = some f ∧ f.isRevoked = true) →
      ∃ f, u.families.get? fam = some f ∧ f.isRevoked = true := by
    intro fam hx
    rcases hx with ⟨f, hf, hf'⟩
    exact ⟨f, htu.families_of_revoked hf hf', hf'⟩
  rcases turn with ⟨e, r⟩
  cases e with
  | store c =>
      cases r with
      | error error => cases c <;> trivial
      | ok a =>
          cases c with
          | findByHash hash =>
              cases a with
              | none => trivial
              | some r => exact ⟨h.left, hrecord r.id r h.right⟩
          | insert r =>
              rcases h with ⟨hstored, f, hf⟩
              rcases htu.families r.family f hf with ⟨g, hg, _⟩
              exact ⟨hrecord r.id r hstored, g, hg⟩
          | transition id expected state successor =>
              cases a with
              | applied =>
                  exact ⟨hspent id h.left, fun s hs => hrecord s.id s (h.right s hs)⟩
              | stateMismatch state => exact ⟨h.left, hspent id h.right⟩
              | familyRevoked =>
                  rcases h with ⟨r, hr, hstate⟩
                  exact ⟨r, htu.get?_of_revoked hr hstate, hstate⟩
              | notFound => exact h
          | revokeFamily fam reason => exact hrevoked fam h
          | revokeSubjectFamilies subject reason =>
              intro fam hfam
              rcases h fam hfam with ⟨f, hf, hf', hsubject⟩
              exact ⟨f, htu.families_of_revoked hf hf', hf', hsubject⟩
          | findById id =>
              cases a with
              | none => trivial
              | some s => exact h
          | _ => trivial
  | _ => trivial

/-! # Responsibility -/

def Stores (turn : Turn) (r : Record) : Prop :=
  turn = Service.opened r ∨ ∃ id, turn = Service.exchanged id r .applied

theorem Stores.exists_answered {turn : Turn} {r : Record} (h : turn.Stores r) :
    ∃ c a, turn = answered c a := by
  rcases h with rfl | ⟨id, rfl⟩
  · exact ⟨_, _, rfl⟩
  · exact ⟨_, _, rfl⟩

theorem Stores.evolves {t : Table} {turn : Turn} {r : Record} (hstores : turn.Stores r)
    (h : turn.Attests t) : ∃ q, t.records.get? r.id = some q ∧ r.Evolves q := by
  rcases hstores with rfl | ⟨id, rfl⟩
  · exact h.left
  · exact h.right r rfl

def Exchanges (turn : Turn) (id : RecordId) : Prop :=
  ∃ s, turn = Service.exchanged id s .applied

def SeesExchanged (turn : Turn) (id : RecordId) : Prop :=
  (∃ hash r, turn = answered (.findByHash hash) (some r) ∧ r.id = id ∧ r.state = .consumed) ∨
    ∃ s, turn = Service.exchanged id s (.stateMismatch .consumed)

def Withdraws (turn : Turn) (fam : FamilyId) : Prop :=
  (∃ reason n, turn = Service.withdrew fam reason n) ∨
    ∃ subject reason families, turn = Service.swept subject reason families ∧ fam ∈ families

end Turn

/-- A turn that accounts for all that is new in a table. -/
structure Accounts (turn : Turn) (t u : Table) : Prop where
  changes : Table.Changes t u
  attests : turn.Attests u
  stored : ∀ id r, u.records.get? id = some r →
    (∃ q, t.records.get? id = some q) ∨ ∃ q, turn.Stores q ∧ q.id = id
  consumed : ∀ id r, u.records.get? id = some r → r.state = .consumed →
    (∃ q, t.records.get? id = some q ∧ q.state = .consumed) ∨ turn.Exchanges id
  withdrawn : ∀ fam f, u.families.get? fam = some f → f.isRevoked = true →
    (∃ g, t.families.get? fam = some g ∧ g.isRevoked = true) ∨ turn.Withdraws fam
  exchanged : ∀ id, turn.Exchanges id → ∃ r, t.records.get? id = some r ∧ r.state = .active
  seen : ∀ id, turn.SeesExchanged id → ∃ r, t.records.get? id = some r ∧ r.state = .consumed

namespace Accounts

variable {t u : Table} {turn : Turn}

theorem unchanged (hattests : turn.Attests t) (hexchanged : ∀ id, ¬ turn.Exchanges id)
    (hseen : ∀ id, turn.SeesExchanged id → ∃ r, t.records.get? id = some r ∧ r.state = .consumed) :
    Accounts turn t t where
  changes := Relation.ReflTransGen.refl
  attests := hattests
  stored := fun _ r h => Or.inl ⟨r, h⟩
  consumed := fun _ r h hstate => Or.inl ⟨r, h, hstate⟩
  withdrawn := fun _ f h hrevoked => Or.inl ⟨f, h, hrevoked⟩
  exchanged := fun id h => absurd h (hexchanged id)
  seen := hseen

theorem idle (t : Table) (h : ∀ c (a : c.Reply), turn ≠ Turn.answered c a) :
    Accounts turn t t := by
  refine unchanged ?_ ?_ ?_
  · rcases turn with ⟨e, r⟩
    cases e with
    | store c =>
        cases r with
        | error error => cases c <;> trivial
        | ok a => exact absurd rfl (h c a)
    | _ => trivial
  · intro id hx
    rcases hx with ⟨s, hs⟩
    exact h _ _ hs
  · intro id hx
    rcases hx with ⟨hash, r, hr, _⟩ | ⟨s, hs⟩
    · exact absurd hr (h _ _)
    · exact absurd hs (h _ _)

/-! # Reading -/

theorem findByHash (ht : t.Coherent) (hash : String) :
    Accounts (Turn.answered (.findByHash hash) (t.findByHash hash)) t t := by
  refine unchanged ?_ ?_ ?_
  · cases hr : t.findByHash hash with
    | none => trivial
    | some r =>
        rcases ht.get?_of_findByHash hr with ⟨hrecord, hhash⟩
        exact ⟨hhash, r, hrecord, Record.Evolves.refl r⟩
  · intro id h
    rcases h with ⟨s, hs⟩
    cases hs
  · intro id h
    rcases h with ⟨hash', r, hr, hid, hstate⟩ | ⟨s, hs⟩
    · cases hfound : t.findByHash hash with
      | none =>
          rw [hfound] at hr
          cases hr
      | some q =>
          rw [hfound] at hr
          cases hr
          rw [← hid]
          exact ⟨r, (ht.get?_of_findByHash hfound).left, hstate⟩
    · cases hs

theorem other {c : Store.Call} {a : c.Reply}
    (hattests : (Turn.answered c a).Attests t) (hhash : ∀ hash, c ≠ .findByHash hash)
    (htransition : ∀ id expected state s, c ≠ .transition id expected state s) :
    Accounts (Turn.answered c a) t t := by
  refine unchanged hattests ?_ ?_
  · intro id h
    rcases h with ⟨s, hs⟩
    injection hs with he _
    injection he with hc
    exact htransition _ _ _ _ hc
  · intro id h
    rcases h with ⟨hash, r, hr, _⟩ | ⟨s, hs⟩
    · injection hr with he _
      injection he with hc
      exact absurd hc (hhash _)
    · injection hs with he _
      injection he with hc
      exact absurd hc (htransition _ _ _ _)

/-! # Adding and exchanging -/

theorem insert {r : Record} (h : t.insert r = .ok u) (hid : t.records.get? r.id = none)
    (hnew : r.Unused) (hfirst : r.generation = 0) : Accounts (Service.opened r) t u := by
  rcases Table.insert_eq_ok h with ⟨hfamily, hhash, rfl⟩
  constructor
  case changes =>
      exact Relation.ReflTransGen.single (Table.Change.added hfamily hhash hid hnew hfirst)
  case attests =>
      refine ⟨⟨r, ?_, Record.Evolves.refl r⟩, ?_⟩
      · rw [Table.get?_records_withFamily, if_pos rfl]
      · rw [Table.get?_families_withFamily, if_pos rfl]
        exact ⟨_, rfl⟩
  case stored =>
      intro id q hq
      rw [Table.get?_records_withFamily] at hq
      split at hq
      case isTrue heq => exact Or.inr ⟨r, Or.inl rfl, heq.symm⟩
      case isFalse => exact Or.inl ⟨q, hq⟩
  case consumed =>
      intro id q hq hstate
      rw [Table.get?_records_withFamily] at hq
      split at hq
      · cases hq
        rw [hnew.state] at hstate
        cases hstate
      · exact Or.inl ⟨q, hq, hstate⟩
  case withdrawn =>
      intro fam f hf hrevoked
      rw [Table.get?_families_withFamily] at hf
      split at hf
      · cases hf
        cases hrevoked
      · exact Or.inl ⟨f, hf, hrevoked⟩
  case exchanged =>
      intro id hx
      rcases hx with ⟨s, hs⟩
      cases hs
  case seen =>
      intro id hx
      rcases hx with ⟨hash, q, hq, _⟩ | ⟨s, hs⟩
      · cases hq
      · cases hs

theorem applied {now : Instant} {id : RecordId} {r s : Record}
    (hrecord : t.records.get? id = some r) (hopen : t.isClosed r.family = false)
    (hstate : r.state = .active) (hhash : t.byHash.get? s.tokenHash = none)
    (hid : t.records.get? s.id = none) (hnew : s.Succeeds r) :
    Accounts (Service.exchanged id s .applied) t (t.exchanged now id s) := by
  have hself : (t.exchanged now id s).records.get? id =
      some (r.moveTo now .consumed (some s.id)) := Table.get?_records_exchanged_self hrecord hid
  constructor
  case changes =>
      exact Relation.ReflTransGen.single
        (Table.Change.exchanged hrecord hopen hstate hhash hid hnew)
  case attests =>
      refine ⟨⟨_, hself, by simp [Record.moveTo]⟩, ?_⟩
      intro q h
      cases h
      exact ⟨s, Table.get?_records_exchanged_successor hrecord hid, Record.Evolves.refl s⟩
  case stored =>
      intro k q hq
      rcases Table.get?_records_exchanged_cases hrecord hid hq with
        ⟨rfl, _⟩ | ⟨rfl, _⟩ | ⟨_, _, hold⟩
      · exact Or.inl ⟨r, hrecord⟩
      · exact Or.inr ⟨s, Or.inr ⟨id, rfl⟩, rfl⟩
      · exact Or.inl ⟨q, hold⟩
  case consumed =>
      intro k q hq hconsumed
      rcases Table.get?_records_exchanged_cases hrecord hid hq with
        ⟨rfl, _⟩ | ⟨rfl, rfl⟩ | ⟨_, _, hold⟩
      · exact Or.inr ⟨s, rfl⟩
      · rw [hnew.state] at hconsumed
        cases hconsumed
      · exact Or.inl ⟨q, hold, hconsumed⟩
  case withdrawn =>
      intro fam f hf hrevoked
      rw [Table.get?_families_exchanged] at hf
      split at hf
      · rcases Option.map_eq_some_iff.mp hf with ⟨g, hg, rfl⟩
        exact Or.inl ⟨g, hg, hrevoked⟩
      · exact Or.inl ⟨f, hf, hrevoked⟩
  case exchanged =>
      intro k h
      rcases h with ⟨q, hq⟩
      cases hq
      exact ⟨r, hrecord, hstate⟩
  case seen =>
      intro k h
      rcases h with ⟨hash, q, hq, _⟩ | ⟨q, hq⟩
      · cases hq
      · cases hq

theorem transition {now : Instant} {id : RecordId} {s : Record} {o : Transition} (ht : t.Coherent)
    (h : t.transition now id .active .consumed (some s) = .ok (o, u))
    (hknown : ∃ r, t.records.get? id = some r)
    (hnew : ∀ r, t.records.get? id = some r → s.Succeeds r) (hid : t.records.get? s.id = none) :
    Accounts (Service.exchanged id s o) t u := by
  cases Table.transition_cases h with
  | notFound hnone =>
      rcases hknown with ⟨r, hr⟩
      rw [hnone] at hr
      cases hr
  | familyRevoked hrecord hclosed =>
      rename_i r
      refine unchanged ?_ ?_ ?_
      · rcases ht.listed id r hrecord with ⟨f, hf, _⟩
        have hrevoked := Table.isClosed_eq_true.mp hclosed f hf
        exact ⟨r, hrecord, (ht.revoked_iff hf hrecord rfl).mpr hrevoked⟩
      · intro k hx
        rcases hx with ⟨q, hq⟩
        cases hq
      · intro k hx
        rcases hx with ⟨hash, q, hq, _⟩ | ⟨q, hq⟩
        · cases hq
        · cases hq
  | stateMismatch hrecord hopen hstate =>
      rename_i r
      have hconsumed : r.state = .consumed := by
        rcases Table.isClosed_eq_false.mp hopen with ⟨f, hf, hlive⟩
        cases hr : r.state with
        | active => exact absurd hr hstate
        | consumed => rfl
        | revoked =>
            rw [(ht.revoked_iff hf hrecord rfl).mp hr] at hlive
            cases hlive
      refine unchanged ⟨hconsumed, r, hrecord, hstate⟩ ?_ ?_
      · intro k hx
        rcases hx with ⟨q, hq⟩
        cases hq
      · intro k hx
        rcases hx with ⟨hash, q, hq, _⟩ | ⟨q, hq⟩
        · cases hq
        · injection hq with he _
          injection he with hc
          injection hc with hk _ _ _
          rw [← hk]
          exact ⟨r, hrecord, hconsumed⟩
  | applied hrecord hopen hstate hfamily hhash =>
      exact applied hrecord hopen hstate hhash hid (hnew _ hrecord)

/-! # Withdrawing -/

theorem consumed_of_revokeFamily (now : Instant) (fam : FamilyId) (reason : Reason)
    {id : RecordId} {r : Record}
    (hr : (t.revokeFamily now fam reason).2.records.get? id = some r)
    (hstate : r.state = .consumed) : t.records.get? id = some r := by
  cases hf : t.families.get? fam with
  | none =>
      rw [Table.revokeFamily_of_unknown now fam reason hf] at hr
      exact hr
  | some f =>
      rw [Table.get?_records_revokeFamily now fam reason hf] at hr
      split at hr
      · rcases Option.map_eq_some_iff.mp hr with ⟨q, hq, rfl⟩
        rw [Record.state_revoke] at hstate
        cases hstate
      · exact hr

theorem known_of_revokeFamily (now : Instant) (fam : FamilyId) (reason : Reason)
    {id : RecordId} {r : Record}
    (hr : (t.revokeFamily now fam reason).2.records.get? id = some r) :
    ∃ q, t.records.get? id = some q := by
  cases hf : t.families.get? fam with
  | none =>
      rw [Table.revokeFamily_of_unknown now fam reason hf] at hr
      exact ⟨r, hr⟩
  | some f =>
      rw [Table.get?_records_revokeFamily now fam reason hf] at hr
      split at hr
      · rcases Option.map_eq_some_iff.mp hr with ⟨q, hq, rfl⟩
        exact ⟨q, hq⟩
      · exact ⟨r, hr⟩

theorem revokeFamily {fam : FamilyId} (hknown : ∃ f, t.families.get? fam = some f)
    (now : Instant) (reason : Reason) :
    Accounts (Service.withdrew fam reason (t.revokeFamily now fam reason).1) t
      (t.revokeFamily now fam reason).2 where
  changes := Relation.ReflTransGen.single (Table.Change.withdrawn now fam reason)
  attests := by
    rcases hknown with ⟨f, hf⟩
    refine ⟨f.withdraw now, ?_, rfl⟩
    rw [Table.get?_families_revokeFamily, if_pos rfl, hf]
    rfl
  stored := fun id r hr => Or.inl (known_of_revokeFamily now fam reason hr)
  consumed := fun id r hr hstate =>
    Or.inl ⟨r, consumed_of_revokeFamily now fam reason hr hstate, hstate⟩
  withdrawn := by
    intro k f hf hrevoked
    rw [Table.get?_families_revokeFamily] at hf
    split at hf
    case isTrue hk =>
        rw [hk]
        exact Or.inr (Or.inl ⟨reason, _, rfl⟩)
    case isFalse => exact Or.inl ⟨f, hf, hrevoked⟩
  exchanged := by
    intro id h
    rcases h with ⟨s, hs⟩
    cases hs
  seen := by
    intro id h
    rcases h with ⟨hash, r, hr, _⟩ | ⟨s, hs⟩
    · cases hr
    · cases hs

/-- A family of a subject is withdrawn once the families of the subject are. -/
theorem isRevoked_of_sweep {now : Instant} {subject : SubjectId} {reason : Reason}
    {fam : FamilyId} {f : Family}
    (hf : (t.revokeSubjectFamilies now subject reason).2.families.get? fam = some f)
    (hsubject : f.subject = subject) : f.isRevoked = true := by
  rw [Table.get?_families_revokeSubjectFamilies] at hf
  rcases Option.map_eq_some_iff.mp hf with ⟨g, _, rfl⟩
  split at hsubject
  case isTrue h =>
      rw [if_pos h]
      rfl
  case isFalse h => exact absurd hsubject h

theorem revokeSubjectFamilies (now : Instant) (subject : SubjectId) (reason : Reason) :
    Accounts (Service.swept subject reason (t.revokeSubjectFamilies now subject reason).1) t
      (t.revokeSubjectFamilies now subject reason).2 where
  changes := Table.changes_revokeSubjectFamilies t now subject reason
  attests := by
    intro fam hfam
    rcases (Table.mem_liveFamilies fam).mp hfam with ⟨f, hf, hsubject, _⟩
    refine ⟨f.withdraw now, ?_, rfl, hsubject⟩
    rw [Table.get?_families_revokeSubjectFamilies, hf, Option.map_some, if_pos hsubject]
  stored := by
    intro id r hr
    refine Or.inl (Table.revokeSubjectFamilies_induction
      (P := fun u => ∀ r, u.records.get? id = some r → ∃ q, t.records.get? id = some q)
      now reason subject (fun r hr => ⟨r, hr⟩) ?_ r hr)
    intro u fam hu r hr
    rcases known_of_revokeFamily now fam reason hr with ⟨q, hq⟩
    exact hu q hq
  consumed := by
    intro id r hr hstate
    refine Or.inl ⟨r, Table.revokeSubjectFamilies_induction
      (P := fun u => u.records.get? id = some r → t.records.get? id = some r)
      now reason subject (fun h => h) ?_ hr, hstate⟩
    intro u fam hu hr
    exact hu (consumed_of_revokeFamily now fam reason hr hstate)
  withdrawn := by
    intro fam f hf hrevoked
    rw [Table.get?_families_revokeSubjectFamilies] at hf
    rcases Option.map_eq_some_iff.mp hf with ⟨g, hg, rfl⟩
    cases hlive : g.isRevoked with
    | true => exact Or.inl ⟨g, hg, hlive⟩
    | false =>
        by_cases hsubject : g.subject = subject
        · refine Or.inr (Or.inr ⟨subject, reason, _, rfl, ?_⟩)
          exact (Table.mem_liveFamilies fam).mpr ⟨g, hg, hsubject, hlive⟩
        · rw [if_neg hsubject, hlive] at hrevoked
          cases hrevoked
  exchanged := by
    intro id hx
    rcases hx with ⟨s, hs⟩
    cases hs
  seen := by
    intro id hx
    rcases hx with ⟨hash, r, hr, _⟩ | ⟨s, hs⟩
    · cases hr
    · cases hs

end Accounts

end SessionAuth
