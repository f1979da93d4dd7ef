import SessionAuth.Proofs.Service.Pairs

/-!
# The record behind a secret

The secret that a login or a refresh hands out is backed by the one active record of its family.
It stays so until somebody else exchanges that record or withdraws the family.
-/

namespace SessionAuth

open Time Refresh

/-! # Turns that leave the table alone -/

/-- A turn that leaves the table alone.  If it writes, then only the instant of a login. -/
def Turn.LeavesTable (turn : Turn) : Prop :=
  ∀ c (a : c.Reply), turn = Turn.answered c a →
    Service.reads c = true ∨ ∃ subject t, c = .recordAuthentication subject t

namespace Turn.LeavesTable

variable {turn : Turn} (h : turn.LeavesTable)
include h

theorem not_exchanges (id : RecordId) : ¬ turn.Exchanges id := by
  intro hexchanges
  rcases hexchanges with ⟨r, heq⟩
  rcases h _ _ heq with hreads | ⟨_, _, hcall⟩
  · cases hreads
  · cases hcall

theorem not_withdraws (fam : FamilyId) : ¬ turn.Withdraws fam := by
  intro hwithdraws
  rcases hwithdraws with ⟨reason, n, heq⟩ | ⟨subject, reason, families, heq, _⟩
  · rcases h _ _ heq with hreads | ⟨_, _, hcall⟩
    · cases hreads
    · cases hcall
  · rcases h _ _ heq with hreads | ⟨_, _, hcall⟩
    · cases hreads
    · cases hcall

end Turn.LeavesTable

namespace Service

variable {f : Session.Facade}

theorem Takes.tokens_eq {s t : Service} {e : Entry} (h : Takes s e t)
    (hleaves : e.turn.LeavesTable) : t.tokens = s.tokens := by
  by_cases hreads : ∀ c (a : c.Reply), e.turn = Turn.answered c a → reads c = true
  · exact congrArg Store.tokens (h.store_eq hreads)
  · push Not at hreads
    rcases hreads with ⟨c, a, hturn, hwrites⟩
    rcases hleaves c a hturn with hreads | ⟨subject, instant, rfl⟩
    · exact absurd hreads hwrites
    · rcases e with ⟨i, turn⟩
      cases hturn
      rcases h.perform with ⟨now, hperform⟩
      exact (Store.perform_recordAuthentication hperform).left

theorem Reaches.tokens_eq {s t : Service} (h : Reaches f s t) {new : List Entry}
    (hist : t.history = s.history ++ new) (hnew : ∀ e ∈ new, e.turn.LeavesTable) :
    t.tokens = s.tokens := by
  refine h.induction (P := fun t => ∀ new, t.history = s.history ++ new →
    (∀ e ∈ new, e.turn.LeavesTable) → t.tokens = s.tokens) ?_ ?_ new hist hnew
  · intro _ _ _
    rfl
  · intro u v hsu ih hstep _ new hist hnew
    cases hstep with
    | idle => exact ih new hist hnew
    | start q => exact ih new hist hnew
    | operate o => exact (Operation.tokens_apply _ _ o).trans (ih new hist hnew)
    | turn htakes =>
        rename_i e
        rcases hsu.history_prefix with ⟨old, hold⟩
        rw [htakes.history_eq, hold, List.append_assoc] at hist
        cases List.append_cancel_left hist
        rw [htakes.tokens_eq (hnew e (by simp))]
        exact ih old hold (fun e he => hnew e (List.mem_append_left _ he))

/-- A moment at which a task takes a turn, after which it leaves the table alone. -/
structure Last (f : Session.Facade) (s : Service) (i : Nat) (turn : Turn) (u v : Service) :
    Prop where
  moment : Moment f s i turn u v
  rest : ∃ rest, s.past i = v.past i ++ rest ∧ ∀ t ∈ rest, t.LeavesTable

theorem Reachable.last {s : Service} (hs : Reachable f s) {i : Nat} {xs ys : List Turn}
    {turn : Turn} (hcalls : Turn.calls (s.past i) = xs ++ turn :: ys)
    (hleaves : ∀ t ∈ ys, t.LeavesTable) :
    ∃ u v, Last f s i turn u v ∧ Turn.calls (u.past i) = xs := by
  rcases List.filter_eq_append_iff.mp hcalls with ⟨l₁, l₂, hpast, hxs, hrest⟩
  rcases List.filter_eq_cons_iff.mp hrest with ⟨l₃, l₄, rfl, hnone, _, hys⟩
  rw [← List.append_assoc] at hpast
  rcases hs.moment hpast with ⟨u, v, hmoment, hu⟩
  refine ⟨u, v, ⟨hmoment, l₄, ?_, ?_⟩, ?_⟩
  · rw [hmoment.takes.past_eq, hu, hpast, List.append_assoc _ [turn], List.singleton_append]
  · intro t ht c a heq
    have hmem : t ∈ Turn.calls l₄ := by
      rw [heq] at ht ⊢
      exact Turn.mem_calls_store.mpr ht
    unfold Turn.calls at hmem
    rw [hys] at hmem
    exact hleaves t hmem c a heq
  · have hidle : Turn.calls l₃ = [] := List.filter_eq_nil_iff.mpr hnone
    rw [hu, Turn.calls_append, hidle, List.append_nil]
    exact hxs

namespace Last

variable {s u v : Service} {i : Nat} {turn : Turn} (h : Last f s i turn u v)
include h

theorem task_ne {e : Entry} (he : e ∈ s.history) (hnew : e ∉ v.history)
    (hwrites : ¬ e.turn.LeavesTable) : e.task ≠ i := by
  rintro rfl
  rcases h.rest with ⟨rest, hpast, hrest⟩
  have hmem : e.turn ∈ s.past e.task := mem_past.mpr he
  rw [hpast] at hmem
  rcases List.mem_append.mp hmem with hold | hlate
  · exact hnew (mem_past.mp hold)
  · exact hwrites (hrest _ hlate)

theorem tokens_eq {before after : List Entry} (hist : s.history = before ++ after)
    (hbefore : ∀ t, ⟨i, t⟩ ∉ before) (hafter : ∀ e ∈ after, e.task = i) :
    s.tokens = v.tokens := by
  rcases h.moment.after.history_prefix with ⟨new, hnew⟩
  rcases h.rest with ⟨rest, hpast, hrest⟩
  have htaken : ⟨i, turn⟩ ∈ v.history := by
    rw [h.moment.takes.history_eq]
    exact List.mem_append_right _ List.mem_cons_self
  have hlater : ∀ e ∈ new, e.task = i := by
    rw [hnew] at hist
    rcases List.append_eq_append_iff.mp hist with ⟨l, rfl, _⟩ | ⟨l, _, rfl⟩
    · exact absurd (List.mem_append_left _ htaken) (hbefore turn)
    · intro e he
      exact hafter e (List.mem_append_right _ he)
  have hturns : new.map Entry.turn = rest := by
    have hall : new.filter (fun e => e.task == i) = new := by
      rw [List.filter_eq_self]
      intro e he
      exact beq_iff_eq.mpr (hlater e he)
    unfold past at hpast
    rw [hnew, List.filter_append, List.map_append, hall] at hpast
    exact List.append_cancel_left hpast
  apply h.moment.after.tokens_eq hnew
  intro e he
  apply hrest
  rw [← hturns]
  exact List.mem_map_of_mem he

end Last

/-! # The one active record -/

/-- The record behind some credentials: the one active record of their family. -/
structure Backs (t : Table) (tokens : Session.Tokens) (id : RecordId) (q : Record) : Prop where
  stored : t.records.get? id = some q
  active : q.state = .active
  family : q.family = tokens.family
  subject : q.subject = tokens.subject
  hash : q.tokenHash = tokens.refresh.hash
  expiry : q.expiresAt = tokens.refreshExpiresAt
  only : ∀ id' q', t.records.get? id' = some q' → q'.family = tokens.family →
    q'.state = .active → id' = id

theorem active_unique {t : Table} (ht : t.Coherent) {id id' : RecordId} {q q' : Record}
    (h : t.records.get? id = some q) (hactive : q.state = .active)
    (h' : t.records.get? id' = some q') (hactive' : q'.state = .active)
    (hfamily : q'.family = q.family) : id' = id := by
  rcases ht.last_of_active h hactive with ⟨g, k, hg, hk, _, _, hlength⟩
  rcases ht.last_of_active h' hactive' with ⟨g', k', hg', hk', _, _, hlength'⟩
  rw [hfamily, hg] at hg'
  cases hg'
  have hsame : k' = k := by omega
  rw [hsame, hk] at hk'
  exact (Option.some.inj hk').symm

namespace Makes

variable {i : Access.Issuer} {turns : List Turn} {x : Subject} {generation : Int} {r : Record}
  {tokens : Session.Tokens} (h : Makes i turns x generation r tokens)
include h

theorem record : r.Unused ∧ r.family = tokens.family ∧ r.subject = tokens.subject ∧
    r.tokenHash = tokens.refresh.hash ∧ r.expiresAt = tokens.refreshExpiresAt ∧
    r.generation = generation := by
  rcases h.issued with ⟨t, id, hr⟩
  have hexpires := h.expires.symm
  rw [h.subject]
  subst hr
  exact ⟨Record.unused_issue _ _ _ _ _ _ _, rfl, rfl, rfl, hexpires, rfl⟩

theorem backs {t : Table} (ht : t.Coherent) {q : Record} (hq : t.records.get? r.id = some q)
    (hrq : r.Evolves q) (hactive : q.state = .active) : Backs t tokens r.id q := by
  rcases h.record with ⟨_, hfamily, hsubject, hhash, hexpires, _⟩
  constructor
  case stored => exact hq
  case active => exact hactive
  case family => exact hrq.family.trans hfamily
  case subject => exact hrq.subject.trans hsubject
  case hash => exact hrq.tokenHash.trans hhash
  case expiry => exact hrq.expiresAt.trans hexpires
  case only =>
      intro id' q' hq' hfamily' hactive'
      exact active_unique ht hq hactive hq' hactive'
        (hfamily'.trans (hrq.family.trans hfamily).symm)

end Makes

/-! # The moment at which a record is stored -/

theorem Invariant.fresh_of_stores {u v : Service} (hu : Invariant f u) {i : Nat} {turn : Turn}
    (h : Takes u ⟨i, turn⟩ v) {r : Record} (hstores : turn.Stores r) :
    u.tokens.records.get? r.id = none := by
  rcases hu.allows h with ⟨q, _, _, hallows⟩
  rcases hstores.exists_answered with ⟨c, a, rfl⟩
  change q.Asks f (u.past i) c at hallows
  exact hu.fresh r.id (hallows.drawn_of_stores hstores) (hallows.issued_of_stores hstores).right

theorem Invariant.get?_of_stores {u v : Service} (hu : Invariant f u) {i : Nat} {turn : Turn}
    (h : Takes u ⟨i, turn⟩ v) {r : Record} (hstores : turn.Stores r) :
    v.tokens.records.get? r.id = some r := by
  have hnone := hu.fresh_of_stores h hstores
  rcases hstores with rfl | ⟨id, rfl⟩
  · rcases h.perform with ⟨now, hperform⟩
    have htable := (Table.insert_eq_ok (Store.perform_insert hperform).left).right.right
    change v.world.store.tokens.records.get? r.id = some r
    rw [htable, Table.get?_records_withFamily, if_pos rfl]
  · rcases h.perform with ⟨now, hperform⟩
    have hexchange := Table.transition_cases (Store.perform_transition hperform).left
    change v.world.store.tokens.records.get? r.id = some r
    generalize v.world.store.tokens = table at hexchange ⊢
    cases hexchange with
    | applied hrecord => exact Table.get?_records_exchanged_successor hrecord hnone

section Later

variable {s u v : Service} {i : Nat} {turn : Turn} {r : Record} {tokens : Session.Tokens}
  {x : Subject} {generation : Int} {turns : List Turn} (h : Last f s i turn u v)
  (hd : s.DistinctIds) (hstores : turn.Stores r)
  (hmakes : Makes f.issuer turns x generation r tokens)
include h hd hstores hmakes

theorem backs_of_stores : Backs v.tokens tokens r.id r := by
  have hmoment := h.moment
  have hv := hmoment.reachable_after.invariant (hd.of_reaches hmoment.after)
  have hr := (hmoment.before.invariant (hd.of_reaches hmoment.reaches)).get?_of_stores
    hmoment.takes hstores
  exact hmakes.backs hv.coherent hr (Record.Evolves.refl r) hmakes.record.left.state

theorem backs_or_touched :
    (∃ q, Backs s.tokens tokens r.id q) ∨
      ∃ e ∈ s.history, e ∉ v.history ∧ e.task ≠ i ∧
        (e.turn.Exchanges r.id ∨ e.turn.Withdraws tokens.family) := by
  have hmoment := h.moment
  have hv := hmoment.reachable_after
  have hinv := hv.invariant (hd.of_reaches hmoment.after)
  have hinv' := hmoment.reachable.invariant hd
  have hbacks := backs_of_stores h hd hstores hmakes
  rcases (hv.evolves hmoment.after hd).records r.id r hbacks.stored with ⟨q, hq, hrq⟩
  cases hstate : q.state with
  | active => exact Or.inl ⟨q, hmakes.backs hinv'.coherent hq hrq hstate⟩
  | consumed =>
      rcases hinv'.consumed r.id q hq hstate with ⟨e, he, hexchanges⟩
      have hnew : e ∉ v.history := by
        intro hold
        rcases hexchanges with ⟨next, heq⟩
        have hattested := hinv.attested e hold
        rw [heq] at hattested
        rcases hattested.left with ⟨r', hr', hspent⟩
        rw [hbacks.stored] at hr'
        cases hr'
        exact hspent hbacks.active
      have hother := h.task_ne he hnew (fun hleaves => hleaves.not_exchanges _ hexchanges)
      exact Or.inr ⟨e, he, hnew, hother, Or.inl hexchanges⟩
  | revoked =>
      rcases hinv'.coherent.listed r.id q hq with ⟨g, hg, _⟩
      have hrevoked := (hinv'.coherent.revoked_iff hg hq rfl).mp hstate
      rcases hinv'.withdrawn _ g hg hrevoked with ⟨e, he, hwithdraws⟩
      rw [hrq.family, hmakes.record.right.left] at hwithdraws
      have hnew : e ∉ v.history := by
        intro hold
        have hgone := hinv.withdrawn_of_withdraws hold hwithdraws
        have hactive := hbacks.active
        rw [hinv.revoked_of_withdrawn hgone hbacks.stored hbacks.family] at hactive
        cases hactive
      have hother := h.task_ne he hnew (fun hleaves => hleaves.not_withdraws _ hwithdraws)
      exact Or.inr ⟨e, he, hnew, hother, Or.inr hwithdraws⟩

end Later

end Service

end SessionAuth
