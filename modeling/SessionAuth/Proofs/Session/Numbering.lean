import SessionAuth.Proofs.Refresh.InPlace
import SessionAuth.Proofs.Refresh.Numbering
import SessionAuth.Proofs.Service.Lineage
import SessionAuth.Proofs.Session.Decision

/-!
# Rotations count upwards

A rotation gives its successor the next generation, and halts if there is none.  A store takes
first records and successors of any generation, so that a family is in order as long as only
rotations add to it.
-/

namespace SessionAuth

open Time Refresh Encoding

namespace Session

theorem nextGeneration_eq_ok {n m : Int} (h : nextGeneration n = .ok m) :
    m = n + 1 ∧ m ≤ maxGeneration := by
  unfold nextGeneration at h
  split at h
  case isTrue hlt =>
      cases h
      exact ⟨rfl, hlt⟩
  case isFalse => cases h

end Session

namespace Service

variable {f : Session.Facade}

theorem Request.Asks.generation_le {q : Request} {past : List Turn} {c : Store.Call} {a : c.Reply}
    (h : q.Asks f past c) {r : Record} (hstores : (Turn.answered c a).Stores r) :
    r.generation ≤ Session.maxGeneration := by
  rcases (h.issued_of_stores hstores).left with ⟨_, _, _, _, hissued, hgeneration⟩
  cases hissued with
  | mk _ _ _ =>
      rcases hgeneration with rfl | ⟨n, hn⟩
      · exact (by decide : (0 : Int) ≤ Session.maxGeneration)
      · exact (Session.nextGeneration_eq_ok hn).right

theorem Reachable.generation_le {s : Service} (hs : Reachable f s) (hd : s.DistinctIds)
    {id : RecordId} {r : Record} (hr : s.tokens.records.get? id = some r) :
    r.generation ≤ Session.maxGeneration := by
  have hinv := hs.invariant hd
  rcases hinv.stored id r hr with ⟨⟨i, turn⟩, he, _, q, hstores, rfl⟩
  rcases hstores.evolves (hinv.attested _ he) with ⟨r', hr', hevolves⟩
  rw [hr] at hr'
  cases hr'
  rcases hs.moment_of_mem (mem_past.mpr he) with ⟨u, v, hmoment⟩
  have hu := hmoment.before.invariant (hd.of_reaches hmoment.reaches)
  rcases hu.allows hmoment.takes with ⟨request, _, _, hallows⟩
  rcases hstores.exists_answered with ⟨c, a, rfl⟩
  rw [hevolves.generation]
  exact Request.Asks.generation_le (f := f) hallows hstores

/-- Logins begin with the first generation and rotations go on from there, so that the table of a
service is in order. -/
theorem Reachable.numbered {s : Service} (hs : Reachable f s) (hd : s.DistinctIds) :
    s.tokens.Numbered := by
  have ht := (hs.invariant hd).coherent
  constructor
  case toLinked => exact ht.linked
  case bounded =>
      intro id r hr
      rcases ht.exists_place hr with ⟨_, k, _, _, hfills⟩
      refine ⟨?_, hs.generation_le hd hr⟩
      rw [hfills.generation]
      exact Int.le_trans (by decide) (Int.natCast_nonneg k)
  case counted =>
      intro fam g hg
      refine ⟨0, ?_⟩
      intro k id hk
      rcases ht.filled fam g k id hg hk with ⟨r, hr, hfills⟩
      refine ⟨r, hr, hfills.family, by rw [hfills.generation, Int.zero_add], ?_⟩
      intro hactive
      rcases Family.stateAt_eq_active.mp (hfills.state.symm.trans hactive) with ⟨hlive, hlength⟩
      have hbound := (List.getElem?_eq_some_iff.mp hk).choose
      exact ⟨by omega, hlive⟩

end Service

namespace Session

open Access

variable {i : Issuer} {w : World} {p : Secret} {r : Record} {x : Subject} {id : RecordId}
  {access : Credential}

/-! # Rotations in tables in order -/

theorem run_exchange_of_last
    (haccess : i.issueAccess (w.instant 0) ⟨w.uuid 0⟩ x.id x.admin (some r.family) = .ok access)
    (hlast : r.generation = maxGeneration) :
    w.run (exchange i x r) = (.error (.overflow .generation), w.tick.drawId.2) := by
  have hnext : nextGeneration r.generation = .error (.overflow .generation) := by
    unfold nextGeneration
    rw [hlast, if_neg (Int.lt_irrefl _)]
  exact run_exchange_of_uncounted i w haccess hnext

section Rotation

variable (ht : w.store.tokens.Numbered) (hr : w.store.tokens.records.get? id = some r)
  (hhash : r.tokenHash = p.hash)
include ht hr hhash

theorem findByHash_of_numbered :
    w.store.tokens.findByHash p.hash = some r ∧ r.belongsTo p = true := by
  constructor
  · exact Table.findByHash_eq_some.mpr ⟨id, (ht.indexed p.hash id).mpr ⟨r, hr, hhash⟩, hr⟩
  · simp [Record.belongsTo, hhash]

variable (hstate : r.state = .active) (hfresh : ¬ r.expiresAt ≤ w.instant 1)
  (hx : w.store.subjects.findById r.subject = some x) (husable : x.isUsable = true)
  (haccess : i.issueAccess (w.instant 3) ⟨w.uuid 0⟩ x.id x.admin (some r.family) = .ok access)
include hstate hfresh hx husable haccess

theorem run_rotate_of_last (hlast : r.generation = maxGeneration) :
    (w.run (rotate i p)).1 = .error (.overflow .generation) ∧
      (w.run (rotate i p)).2.store = w.store := by
  rcases findByHash_of_numbered ht hr hhash with ⟨hfound, hown⟩
  rw [run_rotate_of_usable i w hfound hown hstate hfresh hx husable,
    run_exchange_of_last (w := w.tick.tick.called w.store) haccess hlast]
  exact ⟨rfl, rfl⟩

/-- A rotation of a record that is not of the last generation adds a record of the next one. -/
theorem gives_rotate_of_numbered (hsubject : x.id = r.subject)
    (hlast : r.generation ≠ maxGeneration)
    (hid : w.store.tokens.records.get? ⟨w.uuid 1⟩ = none)
    (hnew : w.store.tokens.byHash.get? w.secret.hash = none) :
    ∃ next t, next.generation = r.generation + 1 ∧
      w.Gives (rotate i p)
        (.ok ⟨r.subject, r.family, next.generation, r.id, access, w.secret, next.expiresAt⟩)
        { w.store with tokens := t } ∧
      Table.Growth w.store.tokens t ∧
      t.records.get? next.id = some next ∧ next.family = r.family ∧ next.state = .active := by
  have hbound : r.generation < maxGeneration := by
    have hle : r.generation ≤ maxGeneration := (ht.bounded id r hr).right
    omega
  have hkey := ht.keyed id r hr
  have hstored : w.store.tokens.records.get? r.id = some r := by
    rw [hkey]
    exact hr
  rcases findByHash_of_numbered ht hr hhash with ⟨hfound, hown⟩
  rcases ht.last_of_active hr hstate with ⟨g, _, hg, hlive, _⟩
  have htransition : w.store.tokens.transition (w.instant 5) r.id .active .consumed
      (some (successor i (w.tick.tick.called w.store) r)) = .ok (.applied, _) :=
    Table.transition_of_open hstored hstate (Table.isClosed_eq_false.mpr ⟨g, hg, hlive⟩) rfl hnew
  have hgrowth : Table.Growth w.store.tokens (w.store.tokens.exchanged (w.instant 5) r.id
      (successor i (w.tick.tick.called w.store) r)) :=
    Table.Growth.exchanged hstored hstate hnew hid rfl rfl hbound
  refine ⟨successor i (w.tick.tick.called w.store) r, _, rfl, ?_, hgrowth,
    Table.get?_records_exchanged_successor hstored hid, rfl, rfl⟩
  unfold World.Gives
  rw [run_rotate_of_usable i w hfound hown hstate hfresh hx husable]
  exact gives_exchange i (w.tick.tick.called w.store) hbound hsubject haccess htransition

end Rotation

/-- A family that begins with a record of any generation and is only ever added to by rotations is
in order: its generations count upwards without a gap, none of them leaves the range, and sorting
by generation lists the records in the order of their issue, an active one last.  The table of a
service is always so.  In such a table a rotation of an active record of a usable subject adds a
record of the next generation, which is greater than those of all other records of the family, and
the table stays in order.  Only a record of the last generation cannot be exchanged: the rotation
halts and leaves the store as it was. -/
theorem generations_ascend {f : Facade} :
    (∀ t u r, Table.insert t r = .ok u → t.records.get? r.id = none →
      IntRange.int32.low ≤ r.generation ∧ r.generation ≤ IntRange.int32.high →
      Table.Growth t u) ∧
    (∀ t, Relation.ReflTransGen Table.Growth .empty t → t.Numbered) ∧
    (∀ s, Service.Reachable f s → s.DistinctIds → s.tokens.Numbered) ∧
    (∀ t : Table, t.Numbered → ∀ fam, t.Chronicle fam (t.familyRecords fam) ∧
      (t.familyRecords fam).Pairwise (fun r s => r.generation < s.generation)) ∧
    ∀ (i : Issuer) (w : World) p id r x access, w.store.tokens.Numbered →
      w.store.subjects.Keyed → w.store.tokens.records.get? id = some r → r.tokenHash = p.hash →
      r.state = .active → ¬ r.expiresAt ≤ w.instant 1 →
      w.store.subjects.findById r.subject = some x → x.isUsable = true →
      i.issueAccess (w.instant 3) ⟨w.uuid 0⟩ x.id x.admin (some r.family) = .ok access →
      (r.generation = maxGeneration →
        (w.run (rotate i p)).1 = .error (.overflow .generation) ∧
          (w.run (rotate i p)).2.store = w.store) ∧
      (r.generation ≠ maxGeneration → w.store.tokens.records.get? ⟨w.uuid 1⟩ = none →
        w.store.tokens.byHash.get? w.secret.hash = none →
        ∃ next t, next.generation = r.generation + 1 ∧
          w.Gives (rotate i p)
            (.ok ⟨r.subject, r.family, next.generation, r.id, access, w.secret, next.expiresAt⟩)
            { w.store with tokens := t } ∧
          Table.Growth w.store.tokens t ∧ t.Numbered ∧
          (t.familyRecords r.family).getLast? = some next ∧
          ∀ q ∈ t.familyRecords r.family, q ≠ next → q.generation < next.generation) := by
  refine ⟨?_, fun _ => Table.numbered_of_growth, fun s hs hd => hs.numbered hd, ?_, ?_⟩
  · intro t u r hinsert hid hbounds
    rcases Table.insert_eq_ok hinsert with ⟨hfamily, hhash, rfl⟩
    exact Table.Growth.added hfamily hhash hid hbounds
  · intro t ht fam
    exact ⟨ht.chronicle fam, (ht.chronicle fam).ascending⟩
  · intro i w p id r x access ht hkeyed hr hhash hstate hfresh hx husable haccess
    constructor
    · exact run_rotate_of_last ht hr hhash hstate hfresh hx husable haccess
    · intro hlast hid hnew
      rcases gives_rotate_of_numbered ht hr hhash hstate hfresh hx husable haccess
        (hkeyed.findById hx) hlast hid hnew with
        ⟨next, t, hnext, hgives, hgrowth, hstored, hfamily, hactive⟩
      have hchronicle := (ht.growth hgrowth).chronicle r.family
      have hmem := (hchronicle.members next).mpr ⟨hstored, hfamily⟩
      have hend := hchronicle.active next hmem hactive
      refine ⟨next, t, hnext, hgives, hgrowth, ht.growth hgrowth, hend, ?_⟩
      intro q hq hne
      exact hchronicle.lt_of_getLast? hend hq hne

end Session

namespace Service.Sample

def placed (id : Nat) (p : Secret) (generation : Int) : Record :=
  { Refresh.Sample.issued id 7 p.hash with subject := subject.id, generation := generation }

def holding (t : Table) : World :=
  { world with store := { world.store with tokens := t } }

def firstSecret : Secret :=
  .ofOctets [100]

def laterSecret : Secret :=
  .ofOctets [101]

def beginning (generation : Int) : Table :=
  Table.empty.withFamily (placed 7 firstSecret generation)

/-- A family of which the second record has a lower generation than the first one. -/
def descending : Table :=
  (beginning 2).exchanged .epoch ⟨.ofNat 7⟩ (placed 8 laterSecret 0)

def resumed : Table :=
  ((holding descending).run (Session.rotate issuer laterSecret)).2.store.tokens

theorem growth_beginning (generation : Int) (hbounds : IntRange.int32.low ≤ generation ∧
    generation ≤ IntRange.int32.high) : Table.Growth .empty (beginning generation) :=
  Table.Growth.added rfl rfl rfl hbounds

theorem get?_beginning (generation : Int) : (beginning generation).records.get? ⟨.ofNat 7⟩ =
    some (placed 7 firstSecret generation) :=
  (Table.get?_records_withFamily _ _ _).trans (if_pos rfl)

theorem issueAccess_holding (t : Table) :
    ∃ access, issuer.issueAccess ((holding t).instant 3) ⟨(holding t).uuid 0⟩ subject.id
      subject.admin (some ⟨.ofNat 7⟩) = .ok access :=
  ⟨_, Access.Issuer.issueAccess_eq_ok issuer rfl rfl _ _ _ _⟩

end Service.Sample

namespace Session

open Service

/-- The last generation but one can be exchanged. -/
theorem generations_ascend_last :
    ∃ next t access, (Sample.holding (Sample.beginning 2147483646)).Gives
        (rotate Sample.issuer Sample.firstSecret)
        (.ok ⟨Sample.subject.id, ⟨.ofNat 7⟩, maxGeneration, ⟨.ofNat 7⟩, access,
          (Sample.holding (Sample.beginning 2147483646)).secret, next.expiresAt⟩)
        { (Sample.holding (Sample.beginning 2147483646)).store with tokens := t } ∧
      t.Numbered ∧ (t.familyRecords ⟨.ofNat 7⟩).getLast? = some next ∧
      ∀ q ∈ t.familyRecords ⟨.ofNat 7⟩, q ≠ next → q.generation < next.generation := by
  rcases generations_ascend (f := Sample.facade) with ⟨hinsert, hnumbered, _, _, hrotate⟩
  have hgrowth : Table.Growth .empty (Sample.beginning 2147483646) :=
    hinsert .empty _ (Sample.placed 7 Sample.firstSecret 2147483646) rfl rfl (by decide)
  rcases Sample.issueAccess_holding (Sample.beginning 2147483646) with ⟨access, haccess⟩
  rcases (hrotate Sample.issuer (Sample.holding (Sample.beginning 2147483646)) Sample.firstSecret
    ⟨.ofNat 7⟩ (Sample.placed 7 Sample.firstSecret 2147483646) Sample.subject access
    (hnumbered _ (.single hgrowth)) Sample.fresh_world.keyed (Sample.get?_beginning _) rfl rfl
    (by decide) Sample.findById_world rfl haccess).right (by decide) rfl (by decide +kernel) with
    ⟨next, t, hnext, hgives, _, ht, hlast, hgreatest⟩
  have hgeneration : next.generation = maxGeneration := hnext
  rw [hgeneration] at hgives
  exact ⟨next, t, access, hgives, ht, hlast, hgreatest⟩

theorem mergeSort_of_first_last {α : Type} {le : α → α → Bool} {a b c : α} (hab : le a b = false)
    (hac : le a c = false) (hbc : le b c = true) : [a, b, c].mergeSort le = [b, c, a] := by
  simp [List.mergeSort, List.MergeSort.Internal.splitInTwo, hab, hac, hbc]

/-- The store takes a first record of the last generation, and to rotate it halts.  The store also
takes a successor of a lower generation than that of the record it replaces, and the rotation of the
successor gives a record that is active and that is listed before an earlier one. -/
theorem generations_not_ascending :
    (Table.insert .empty (Sample.placed 7 Sample.firstSecret maxGeneration) =
        .ok (Sample.beginning maxGeneration) ∧
      ((Sample.holding (Sample.beginning maxGeneration)).run
        (rotate Sample.issuer Sample.firstSecret)).1 = .error (.overflow .generation)) ∧
    Table.insert .empty (Sample.placed 7 Sample.firstSecret 2) = .ok (Sample.beginning 2) ∧
      (Sample.beginning 2).transition .epoch ⟨.ofNat 7⟩ .active .consumed
        (some (Sample.placed 8 Sample.laterSecret 0)) = .ok (.applied, Sample.descending) ∧
      (Sample.resumed.families.get? ⟨.ofNat 7⟩).map Family.records =
        some [⟨.ofNat 7⟩, ⟨.ofNat 8⟩, ⟨.ofNat 1⟩] ∧
      (Sample.resumed.familyRecords ⟨.ofNat 7⟩).map (fun r => (r.id, r.generation, r.state)) =
        [(⟨.ofNat 8⟩, 0, .consumed), (⟨.ofNat 1⟩, 1, .active), (⟨.ofNat 7⟩, 2, .consumed)] := by
  have hresumed : (Sample.resumed.families.get? ⟨.ofNat 7⟩).map Family.records =
        some [⟨.ofNat 7⟩, ⟨.ofNat 8⟩, ⟨.ofNat 1⟩] ∧
      (Sample.resumed.families.get? ⟨.ofNat 7⟩).map (fun g =>
        (g.records.filterMap Sample.resumed.records.get?).map
          (fun r => (r.id, r.generation, r.state))) =
        some [(⟨.ofNat 7⟩, 2, .consumed), (⟨.ofNat 8⟩, 0, .consumed),
          (⟨.ofNat 1⟩, 1, .active)] := by
    decide +kernel
  refine ⟨⟨rfl, ?_⟩, rfl, ?_, hresumed.left, ?_⟩
  · rcases Sample.issueAccess_holding (Sample.beginning maxGeneration) with ⟨access, haccess⟩
    have ht := Table.numbered_of_growth
      (.single (Sample.growth_beginning maxGeneration (by decide)))
    exact (run_rotate_of_last (w := Sample.holding (Sample.beginning maxGeneration)) ht
      (Sample.get?_beginning _) rfl rfl (by decide) Sample.findById_world rfl haccess rfl).left
  · exact Table.transition_of_open (r := Sample.placed 7 Sample.firstSecret 2)
      (Sample.get?_beginning 2) rfl rfl rfl (by decide +kernel)
  · rcases Option.map_eq_some_iff.mp hresumed.right with ⟨g, hg, hrecords⟩
    unfold Table.familyRecords
    rw [hg]
    dsimp only
    rw [List.map_mergeSort (s := fun (a b : RecordId × Int × State) => decide (a.2.1 ≤ b.2.1))
      (fun _ _ _ _ => rfl), hrecords]
    exact mergeSort_of_first_last rfl rfl rfl

end Session

end SessionAuth
