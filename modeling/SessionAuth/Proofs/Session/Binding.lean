import SessionAuth.Proofs.Session.Logout

/-!
# Secrets and their records

The index leads from the hash of a secret to a record, and the record has to say that it has this
hash.  Were the index wrong, whoever presents a secret would still not get at a record of another
one: such a record counts for nothing, and from a record of the secret a request does not get
beyond its family.
-/

namespace SessionAuth

open Time Refresh

namespace Refresh.Table

/-! # One family among the others -/

/-- A table that keeps its records under their own identifiers, and in which a family lists no
record of another one.  Nothing is said about the index. -/
structure Filed (t : Table) : Prop where
  keyed : ∀ id r, t.records.get? id = some r → r.id = id
  own : ∀ fam g id r, t.families.get? fam = some g → id ∈ g.records →
    t.records.get? id = some r → r.family = fam

theorem Coherent.filed {t : Table} (ht : t.Coherent) (index : Registry String RecordId) :
    Filed { t with byHash := index } where
  keyed := ht.keyed
  own := fun _ _ _ _ hg hmem hr => ht.family_of_mem hg hmem hr

/-- A table and a later one in which nothing has become of the other families: their records and
their lists are as they were, and there is no new record among them.  What stood at a place that
was not free has had to make room. -/
structure Spares (t u : Table) (fam : FamilyId) (places : List RecordId) : Prop where
  kept : ∀ id q, t.records.get? id = some q → q.family ≠ fam → id ∉ places →
    u.records.get? id = some q
  old : ∀ id q, u.records.get? id = some q → q.family ≠ fam → t.records.get? id = some q
  families : ∀ k, k ≠ fam → u.families.get? k = t.families.get? k
  index : ∀ hash id, t.byHash.get? hash = some id → u.byHash.get? hash = some id

variable {t u v : Table} {fam : FamilyId} {places : List RecordId}

theorem Spares.refl (t : Table) (fam : FamilyId) (places : List RecordId) :
    t.Spares t fam places where
  kept := fun _ _ hq _ _ => hq
  old := fun _ _ hq _ => hq
  families := fun _ _ => rfl
  index := fun _ _ h => h

theorem Spares.trans (h : t.Spares u fam places) (h' : u.Spares v fam places) :
    t.Spares v fam places where
  kept := fun id q hq hother hplace =>
    h'.kept id q (h.kept id q hq hother hplace) hother hplace
  old := fun id q hq hother => h.old id q (h'.old id q hq hother) hother
  families := fun k hk => (h'.families k hk).trans (h.families k hk)
  index := fun hash id hid => h'.index hash id (h.index hash id hid)

theorem Spares.of_unused {place : RecordId} (h : t.Spares u fam [place])
    (hunused : t.records.get? place = none) : t.Spares u fam [] where
  kept := by
    intro id q hq hother _
    refine h.kept id q hq hother ?_
    intro hmem
    rw [List.mem_singleton.mp hmem, hunused] at hq
    cases hq
  old := h.old
  families := h.families
  index := h.index

/-- To withdraw a family touches the records that it lists, and these are its own. -/
theorem Filed.spares_revokeFamily (ht : t.Filed) (now : Instant) (fam : FamilyId)
    (reason : Reason) (places : List RecordId) :
    t.Spares (t.revokeFamily now fam reason).2 fam places := by
  cases hg : t.families.get? fam with
  | none =>
      rw [revokeFamily_of_unknown now fam reason hg]
      exact Spares.refl t fam places
  | some g =>
      constructor
      case kept =>
          intro id q hq hother _
          have hnot : id ∉ g.records := fun hmem => hother (ht.own fam g id q hg hmem hq)
          rw [get?_records_revokeFamily now fam reason hg, if_neg hnot]
          exact hq
      case old =>
          intro id q hq hother
          rw [get?_records_revokeFamily now fam reason hg] at hq
          split at hq
          case isTrue hmem =>
              rcases Option.map_eq_some_iff.mp hq with ⟨r, hr, rfl⟩
              have hkept : (r.revoke now reason).family = r.family :=
                (r.revoke_keeps now reason).right.right.left
              exact absurd (hkept.trans (ht.own fam g id r hg hmem hr)) hother
          case isFalse => exact hq
      case families =>
          intro k hk
          rw [get?_families_revokeFamily, if_neg hk]
      case index =>
          intro hash id h
          rw [byHash_revokeFamily]
          exact h

section Exchanging

variable {now : Instant} {r s q : Record}

theorem get?_records_exchanged_place (hr : t.records.get? r.id = some r)
    (hfamily : s.family = r.family) {id : RecordId} (hid : id = r.id ∨ id = s.id)
    (hq : (t.exchanged now r.id s).records.get? id = some q) : q.family = r.family := by
  unfold exchanged at hq
  rw [Registry.get?_modify, Registry.get?_insert] at hq
  by_cases hs : id = s.id
  · rw [if_pos hs] at hq
    split at hq
    · cases hq
      exact hfamily
    · cases hq
      exact hfamily
  · have hown := hid.resolve_right hs
    rw [if_neg hs, if_pos hown, hown, hr] at hq
    cases hq
    rfl

theorem spares_exchanged (hr : t.records.get? r.id = some r) (hfamily : s.family = r.family)
    (hhash : t.byHash.get? s.tokenHash = none) :
    t.Spares (t.exchanged now r.id s) r.family [s.id] := by
  constructor
  case kept =>
      intro id q hq hother hplace
      have hid : id ≠ r.id := by
        intro heq
        rw [heq, hr] at hq
        cases hq
        exact hother rfl
      rw [get?_records_exchanged_of_ne hid (fun heq => hplace (List.mem_singleton.mpr heq))]
      exact hq
  case old =>
      intro id q hq hother
      by_cases hid : id = r.id ∨ id = s.id
      · exact absurd (get?_records_exchanged_place hr hfamily hid hq) hother
      · rcases not_or.mp hid with ⟨hpresented, hnew⟩
        rw [get?_records_exchanged_of_ne hpresented hnew] at hq
        exact hq
  case families =>
      intro k hk
      rw [get?_families_exchanged, if_neg]
      exact fun heq => hk (heq.trans hfamily)
  case index =>
      intro hash id h
      rw [get?_byHash_exchanged, if_neg]
      · exact h
      · intro heq
        rw [heq, hhash] at h
        cases h

theorem findByHash_exchanged (t : Table) (now : Instant) (id : RecordId) (s : Record) :
    ∃ next, (t.exchanged now id s).findByHash s.tokenHash = some next ∧
      next.tokenHash = s.tokenHash ∧ next.family = s.family ∧ next.subject = s.subject := by
  have hindex : (t.exchanged now id s).byHash.get? s.tokenHash = some s.id := by
    rw [get?_byHash_exchanged, if_pos rfl]
  have hplace : (t.exchanged now id s).records.get? s.id =
      some (if s.id = id then s.moveTo now .consumed (some s.id) else s) := by
    unfold exchanged
    rw [Registry.get?_modify, Registry.get?_insert, if_pos rfl]
    split <;> rfl
  refine ⟨_, findByHash_eq_some.mpr ⟨s.id, hindex, hplace⟩, ?_⟩
  split
  · exact ⟨rfl, rfl, rfl⟩
  · exact ⟨rfl, rfl, rfl⟩

end Exchanging

end Refresh.Table

/-! # Serving the holder of a secret -/

/-- A notice that tells of nobody but the subject and the family of a record. -/
inductive Notice.Concerns (r : Record) : Notice → Prop where
  | refreshOnRevokedFamily : Concerns r (.refreshOnRevokedFamily r.family)
  | refreshForUnusableSubject (records : Nat) :
      Concerns r (.refreshForUnusableSubject r.subject r.family records)
  | refreshRotated (generation : Int) : Concerns r (.refreshRotated r.family generation)
  | reuseDetected (generation : Int) (records : Nat) :
      Concerns r (.reuseDetected r.subject r.family generation records)

namespace World

/-- A world and a later one in which nothing has been done or told that is not about the family of
a record. -/
structure Spares (w v : World) (r : Record) (places : List RecordId) : Prop where
  subjects : v.store.subjects = w.store.subjects
  shares : v.store.shares = w.store.shares
  tokens : w.store.tokens.Spares v.store.tokens r.family places
  log : ∃ notices, v.log = w.log ++ notices ∧ ∀ n ∈ notices, n.Concerns r
  trail : v.trail = w.trail

/-- A flow that does nothing beyond the family of a record, and whose answer, if it comes to one, is
right for the table that it leaves. -/
structure Serves {α : Type} (w : World) (x : Flow α) (r : Record) (places : List RecordId)
    (right : α → Table → Prop) : Prop where
  spares : w.Spares (w.run x).2 r places
  answer : ∀ a, (w.run x).1 = .ok a → right a (w.run x).2.store.tokens

/-- Tells that no record has the identifier that a rotation draws for the successor.  A rotation
draws one for the access token before. -/
def DrawsUnused (w : World) : Prop :=
  w.store.tokens.records.get? ⟨w.uuid 1⟩ = none

variable {w v u : World} {r : Record} {places : List RecordId}

theorem Serves.of_unused {α : Type} {x : Flow α} {right : α → Table → Prop}
    (h : w.Serves x r [⟨w.uuid 1⟩] right) (hunused : w.DrawsUnused) : w.Serves x r [] right where
  spares := { h.spares with tokens := h.spares.tokens.of_unused hunused }
  answer := h.answer

theorem Spares.trans (h : w.Spares v r places) (h' : v.Spares u r places) :
    w.Spares u r places where
  subjects := h'.subjects.trans h.subjects
  shares := h'.shares.trans h.shares
  tokens := h.tokens.trans h'.tokens
  log := by
    rcases h.log with ⟨notices, hlog, hconcerns⟩
    rcases h'.log with ⟨later, hlog', hconcerns'⟩
    refine ⟨notices ++ later, by rw [hlog', hlog, List.append_assoc], ?_⟩
    intro n hn
    rcases List.mem_append.mp hn with hfirst | hlast
    · exact hconcerns n hfirst
    · exact hconcerns' n hlast
  trail := h'.trail.trans h.trail

theorem spares_of_kept (hstore : v.store = w.store) (hlog : v.log = w.log)
    (htrail : v.trail = w.trail) : w.Spares v r places where
  subjects := congrArg Store.subjects hstore
  shares := congrArg Store.shares hstore
  tokens := by
    rw [hstore]
    exact Table.Spares.refl _ _ _
  log := ⟨[], by rw [hlog, List.append_nil], fun _ hn => absurd hn List.not_mem_nil⟩
  trail := htrail

theorem spares_tick : w.Spares w.tick r places :=
  spares_of_kept rfl rfl rfl

theorem spares_called {t : Table} (ht : w.store.tokens.Spares t r.family places) :
    w.Spares (w.called { w.store with tokens := t }) r places where
  subjects := rfl
  shares := rfl
  tokens := ht
  log := ⟨[], (List.append_nil _).symm, fun _ hn => absurd hn List.not_mem_nil⟩
  trail := rfl

theorem spares_note {n : Notice} (hn : n.Concerns r) : w.Spares (w.note n) r places where
  subjects := rfl
  shares := rfl
  tokens := Table.Spares.refl _ _ _
  log := by
    refine ⟨[n], rfl, ?_⟩
    intro n' hn'
    rw [List.mem_singleton.mp hn']
    exact hn
  trail := rfl

section Rules

variable {α : Type} {x : Flow α} {right : α → Table → Prop}

theorem serves_of_ok {a : α} (hrun : w.run x = (.ok a, v)) (hspares : w.Spares v r places)
    (ha : right a v.store.tokens) : w.Serves x r places right := by
  constructor
  · rw [hrun]
    exact hspares
  · intro b hb
    rw [hrun] at hb ⊢
    cases hb
    exact ha

theorem serves_of_error {e : Halt} (hrun : w.run x = (.error e, v))
    (hspares : w.Spares v r places) : w.Serves x r places right := by
  constructor
  · rw [hrun]
    exact hspares
  · intro a ha
    rw [hrun] at ha
    cases ha

theorem Serves.after {y : Flow α} (h : v.Serves y r places right) (hrun : w.run x = v.run y)
    (hspares : w.Spares v r places) : w.Serves x r places right := by
  constructor
  · rw [hrun]
    exact hspares.trans h.spares
  · rw [hrun]
    exact h.answer

end Rules

end World

namespace Session

open Access World

/-- What an exchange yields is for the family of a record: the access token names this family and
the subject that the record leads to, and the new secret has a record in it. -/
structure Rotated.Continues (i : Issuer) (d : Directory) (r : Record) (o : Rotated) (t : Table) :
    Prop where
  family : o.family = r.family
  previous : o.previous = r.id
  subject : d.Keyed → o.subject = r.subject
  access : ∃ x now id, d.findById r.subject = some x ∧ x.isUsable = true ∧ x.id = o.subject ∧
    i.issueAccess now id o.subject x.admin (some r.family) = .ok o.access
  secret : ∃ next, t.findByHash o.secret.hash = some next ∧ next.tokenHash = o.secret.hash ∧
    next.family = r.family ∧ next.subject = o.subject

/-- An answer to the holder of a secret that has a record. -/
def Answers (i : Issuer) (d : Directory) (r : Record) : Except Rejection Rotated → Table → Prop
  | .error j, _ => j.subject? = some r.subject ∧ j.family? = some r.family
  | .ok o, t => o.Continues i d r t

variable (i : Issuer) {w : World} {p : Secret} {r : Record} {places : List RecordId}

section Parts

variable {d : Directory} (ht : w.store.tokens.Filed)
include ht

theorem serves_revokeForReuse :
    w.Serves (revokeForReuse r >>= fun j => pure (.error j)) r places (Answers i d r) :=
  serves_of_ok (v := (w.called _).note _) rfl
    ((spares_called (ht.spares_revokeFamily _ _ _ _)).trans
      (spares_note (.reuseDetected _ _)))
    ⟨rfl, rfl⟩

theorem serves_revokeForSubject :
    w.Serves (revokeForSubject r >>= fun j => pure (.error j)) r places (Answers i d r) :=
  serves_of_ok (v := (w.called _).note _) rfl
    ((spares_called (ht.spares_revokeFamily _ _ _ _)).trans
      (spares_note (.refreshForUnusableSubject _)))
    ⟨rfl, rfl⟩

end Parts

section Found

variable (hr : w.store.tokens.records.get? r.id = some r)
include hr

/-- The call with which an exchange ends finds the record active, unless its family is closed. -/
theorem serves_conclude {s : Record} {x : Subject} {access : Credential} {generation : Int}
    {secret : Secret} (hstate : r.state = .active) (hfamily : s.family = r.family)
    (hanswer : ∀ now, Rotated.Continues i w.store.subjects r
      ⟨x.id, r.family, generation, r.id, access, secret, s.expiresAt⟩
      (w.store.tokens.exchanged now r.id s)) :
    w.Serves (Flow.call (.transition r.id .active .consumed (some s)) >>=
      conclude x r access generation secret s) r [s.id] (Answers i w.store.subjects r) := by
  cases htransition : w.store.tokens.transition (w.instant 0) r.id .active .consumed (some s) with
  | error e =>
      have hperform : w.store.perform (w.instant 0)
          (.transition r.id .active .consumed (some s)) = .error e := by
        simp only [Store.perform, htransition]
        rfl
      exact serves_of_error (run_call_of_error hperform _) spares_tick
  | ok result =>
      rcases result with ⟨o, t⟩
      have hperform : w.store.perform (w.instant 0)
          (.transition r.id .active .consumed (some s)) =
          .ok (o, { w.store with tokens := t }) := by
        simp only [Store.perform, htransition]
        rfl
      have hrun := run_call hperform (conclude x r access generation secret s)
      cases Table.transition_cases htransition with
      | notFound hnone =>
          rw [hr] at hnone
          cases hnone
      | familyRevoked =>
          exact serves_of_ok hrun (spares_called (Table.Spares.refl _ _ _)) ⟨rfl, rfl⟩
      | stateMismatch hrecord _ hother =>
          rw [hr] at hrecord
          cases hrecord
          exact absurd hstate hother
      | applied _ _ _ _ hhash =>
          refine serves_of_ok (v := (w.called _).note _) hrun ?_ (hanswer _)
          exact (spares_called (Table.spares_exchanged hr hfamily hhash)).trans
            (spares_note (.refreshRotated _))

theorem serves_exchange {x : Subject} (hstate : r.state = .active)
    (hx : w.store.subjects.findById r.subject = some x) (husable : x.isUsable = true) :
    w.Serves (exchange i x r) r [⟨w.uuid 1⟩] (Answers i w.store.subjects r) := by
  cases haccess : i.issueAccess (w.instant 0) ⟨w.uuid 0⟩ x.id x.admin (some r.family) with
  | error e =>
      exact serves_of_error (run_exchange_of_unsigned i w haccess) (spares_of_kept rfl rfl rfl)
  | ok access =>
      cases hnext : nextGeneration r.generation with
      | error e =>
          exact serves_of_error (run_exchange_of_uncounted i w haccess hnext)
            (spares_of_kept rfl rfl rfl)
      | ok generation =>
          have hanswer : ∀ now, Rotated.Continues i w.store.subjects r
              ⟨x.id, r.family, generation, r.id, access, w.secret,
                (issued i w x r generation).expiresAt⟩
              (w.store.tokens.exchanged now r.id (issued i w x r generation)) := by
            intro now
            exact
              { family := rfl
                previous := rfl
                subject := fun hkeyed => hkeyed.findById hx
                access := ⟨x, _, _, hx, husable, rfl, haccess⟩
                secret := Table.findByHash_exchanged _ now r.id (issued i w x r generation) }
          have hfamily : (issued i w x r generation).family = r.family := rfl
          exact (serves_conclude (w := prepared w) i hr hstate hfamily hanswer).after
            (run_exchange_of_signed i w hnext haccess) (spares_of_kept rfl rfl rfl)

theorem serves_advance (ht : w.store.tokens.Filed) (hstate : r.state = .active) :
    w.Serves (advance i r) r [⟨w.uuid 1⟩] (Answers i w.store.subjects r) := by
  have hbarred : (∀ x, w.store.subjects.findById r.subject = some x → x.isUsable = false) →
      w.Serves (advance i r) r [⟨w.uuid 1⟩] (Answers i w.store.subjects r) := by
    intro hnone
    exact (serves_revokeForSubject (w := w.called w.store) i ht).after
      (run_advance_of_unusable i w hnone) (spares_of_kept rfl rfl rfl)
  cases hx : w.store.subjects.findById r.subject with
  | none =>
      apply hbarred
      intro x hfound
      rw [hx] at hfound
      cases hfound
  | some x =>
      cases husable : x.isUsable with
      | true =>
          exact (serves_exchange (w := w.called w.store) i hr hstate hx husable).after
            (run_advance_of_usable i w hx husable) (spares_of_kept rfl rfl rfl)
      | false =>
          apply hbarred
          intro y hfound
          rw [hx] at hfound
          cases hfound
          exact husable

end Found

section Presented

variable (hfound : w.store.tokens.findByHash p.hash = some r) (hown : r.belongsTo p = true)
include hfound hown

theorem serves_rotate (ht : w.store.tokens.Filed)
    (hr : w.store.tokens.records.get? r.id = some r) :
    w.Serves (rotate i p) r [⟨w.uuid 1⟩] (Answers i w.store.subjects r) := by
  by_cases hrevoked : r.state = .revoked
  · exact serves_of_ok (run_rotate_of_revoked i w hfound hown hrevoked)
      (spares_tick.trans (spares_note .refreshOnRevokedFamily)) ⟨rfl, rfl⟩
  · have hrest : w.tick.tick.Serves
        (if r.isExpired (w.instant 1) then pure (.error (.expired r.subject r.family))
        else if r.state = .consumed then revokeForReuse r >>= fun j => pure (.error j)
        else advance i r) r [⟨w.uuid 1⟩] (Answers i w.store.subjects r) := by
      split
      case isTrue => exact serves_of_ok rfl (spares_of_kept rfl rfl rfl) ⟨rfl, rfl⟩
      case isFalse =>
          split
          case isTrue => exact serves_revokeForReuse (w := w.tick.tick) i ht
          case isFalse hconsumed =>
              have hactive : r.state = .active := by
                cases hstate : r.state with
                | active => rfl
                | consumed => exact absurd hstate hconsumed
                | revoked => exact absurd hstate hrevoked
              exact serves_advance (w := w.tick.tick) i hr ht hactive
    exact hrest.after (run_rotate_of_found i w hfound hown hrevoked) (spares_of_kept rfl rfl rfl)

theorem revokePresented_of_filed (ht : w.store.tokens.Filed) (reason : Reason) :
    (∃ n, (w.run (revokePresented p reason)).1 = .ok (some ⟨r.subject, r.family, n⟩)) ∧
      w.Spares (w.run (revokePresented p reason)).2 r places := by
  rw [run_revokePresented_of_found hfound hown rfl]
  exact ⟨⟨_, rfl⟩,
    spares_tick.trans (spares_called (w := w.tick) (ht.spares_revokeFamily _ _ _ _))⟩

end Presented

/-- Whatever the index says, a secret gives access to no family but that of its own record.  If the
index does not know the hash of the secret, or leads from it to no record or to one with another
hash, the secret is unknown to a rotation and to a withdrawal, and neither does anything but to
ask the store.  If the index leads to a record with this hash, nothing is changed or told that is
not about its family, whatever comes of the request, as long as the identifier that is drawn for a
successor is new.  If it is not, the successor takes the place of one record.  A refusal names the
subject and the family of the record, an exchange continues its family, and a withdrawal succeeds
and tells of this family. -/
theorem bound_to_secret (i : Issuer) {w : World} (ht : w.store.tokens.Filed) (p : Secret) :
    ((∀ id r, w.store.tokens.byHash.get? p.hash = some id →
        w.store.tokens.records.get? id = some r → r.tokenHash ≠ p.hash) →
      w.run (rotate i p) = (.ok (.error .unknown), w.tick) ∧
        ∀ reason, w.run (revokePresented p reason) = (.ok none, w.tick)) ∧
    ∀ id r, w.store.tokens.byHash.get? p.hash = some id →
      w.store.tokens.records.get? id = some r → r.tokenHash = p.hash →
      w.Serves (rotate i p) r [⟨w.uuid 1⟩] (Answers i w.store.subjects r) ∧
        (w.DrawsUnused → w.Serves (rotate i p) r [] (Answers i w.store.subjects r)) ∧
        ∀ reason,
          (∃ n, (w.run (revokePresented p reason)).1 = .ok (some ⟨r.subject, r.family, n⟩)) ∧
            w.Spares (w.run (revokePresented p reason)).2 r [] := by
  constructor
  · intro hmisled
    have hnone : (w.store.tokens.findByHash p.hash).filter (fun r => r.belongsTo p) = none := by
      rw [Option.filter_eq_none_iff]
      intro r hfound
      rcases Table.findByHash_eq_some.mp hfound with ⟨id, hindex, hr⟩
      have hother : p.hash ≠ r.tokenHash := (hmisled id r hindex hr).symm
      simp [Record.belongsTo, hother]
    exact ⟨run_rotate_of_stranger i w hnone, run_revokePresented_of_stranger hnone⟩
  · intro id r hindex hr hhash
    have hfound := Table.findByHash_eq_some.mpr ⟨id, hindex, hr⟩
    have hown : r.belongsTo p = true := by simp [Record.belongsTo, hhash]
    have hstored : w.store.tokens.records.get? r.id = some r := by
      rw [ht.keyed id r hr]
      exact hr
    have hserves := serves_rotate i hfound hown ht hstored
    exact ⟨hserves, hserves.of_unused, revokePresented_of_filed hfound hown ht⟩

namespace Sample

open Service.Sample (issuer subject secret supply)

def stranger : Secret :=
  supply.secrets 1

def record : Record :=
  .issue .epoch ⟨.ofNat 1⟩ subject.id ⟨.ofNat 0⟩ 0 secret issuer.refreshLifetime

/-- A world in which the index leads from the hashes of both secrets to the same record. -/
def misled : World where
  supply := supply
  drawn := ⟨2, 2, 2, 0⟩
  store :=
    { Service.Sample.world.store with
      tokens :=
        { Table.empty.withFamily record with
          byHash := (Registry.empty.insert secret.hash record.id).insert stranger.hash record.id } }
  log := []
  trail := []

end Sample

/-- One secret is exchanged in its family, and the other one is unknown although the index leads
from its hash to the same record. -/
theorem bound_to_secret_misled :
    Sample.misled.store.tokens.Filed ∧ Sample.misled.DrawsUnused ∧
      Sample.misled.run (rotate Service.Sample.issuer Sample.stranger) =
        (.ok (.error .unknown), Sample.misled.tick) ∧
      ∃ o, (Sample.misled.run (rotate Service.Sample.issuer Service.Sample.secret)).1 =
          .ok (.ok o) ∧
        o.Continues Service.Sample.issuer Sample.misled.store.subjects Sample.record
          (Sample.misled.run (rotate Service.Sample.issuer Service.Sample.secret)).2.store.tokens ∧
        Sample.misled.Spares
          (Sample.misled.run (rotate Service.Sample.issuer Service.Sample.secret)).2
          Sample.record [] := by
  have hfiled : Sample.misled.store.tokens.Filed :=
    (Table.coherent_empty.added rfl rfl rfl (Record.unused_issue ..) rfl).filed _
  have hrecord : Sample.misled.store.tokens.records.get? Sample.record.id = some Sample.record :=
    (Table.get?_records_withFamily _ _ _).trans (if_pos rfl)
  have hstranger : Sample.misled.store.tokens.byHash.get? Sample.stranger.hash =
      some Sample.record.id := (Registry.get?_insert _ _ _ _).trans (if_pos rfl)
  have hsecret : Sample.misled.store.tokens.byHash.get? Service.Sample.secret.hash =
      some Sample.record.id := by
    refine (Registry.get?_insert _ _ _ _).trans ?_
    split
    · rfl
    · exact (Registry.get?_insert _ _ _ _).trans (if_pos rfl)
  have hother : Sample.record.tokenHash ≠ Sample.stranger.hash := by decide +kernel
  have hunused : Sample.misled.DrawsUnused := by
    refine (Table.get?_records_withFamily _ _ _).trans (if_neg ?_)
    decide
  have hrotated : ((Sample.misled.run
      (rotate Service.Sample.issuer Service.Sample.secret)).1.toOption.bind
        Except.toOption).isSome = true := by decide +kernel
  have hunknown := (bound_to_secret Service.Sample.issuer hfiled Sample.stranger).left
  have hbound := (bound_to_secret Service.Sample.issuer hfiled Service.Sample.secret).right
  refine ⟨hfiled, hunused, (hunknown ?_).left, ?_⟩
  · intro id r hid hr
    rw [hstranger] at hid
    cases hid
    rw [hrecord] at hr
    cases hr
    exact hother
  · have hserves := (hbound _ _ hsecret hrecord rfl).right.left hunused
    rcases hresult : (Sample.misled.run
        (rotate Service.Sample.issuer Service.Sample.secret)).1 with e | (j | o)
    · rw [hresult] at hrotated
      cases hrotated
    · rw [hresult] at hrotated
      cases hrotated
    · exact ⟨o, rfl, hserves.answer _ hresult, hserves.spares⟩

end Session
end SessionAuth
